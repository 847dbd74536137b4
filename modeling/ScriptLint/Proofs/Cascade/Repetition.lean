import Mathlib.Data.List.Dedup
import ScriptLint.Proofs.Cascade.Grouping

/-!
# Repeated layers

A document that is extended on two ways is listed twice.  The earlier copy of a layer
has no effect on what a cascade comes to: the later copy replaces the same severities
and globals, adds the same names, and gives the same options or none.  So a cascade
may be freed of all but the last copy of each layer.
-/

namespace ScriptLint

/-! ## Dictionaries -/

namespace Dictionary

universe u

variable {α : Type u}

/-- A value below itself changes nothing, whatever lies between the two. -/
structure Absorbing (combine : Option α → α → α) : Prop extends Layering combine where
  absorb : ∀ (between : Option α) value,
    combine (some value) (combine between value) = combine between value

theorem overlay_absorb {combine : Option α → α → α} (absorbing : Absorbing combine)
    (outer between : Dictionary α) :
    overlay combine outer (overlay combine between outer) = overlay combine between outer := by
  ext key
  rw [get?_overlay, get?_overlay]
  cases outer.get? key with
  | none => cases between.get? key <;> simp [absorbing.alone]
  | some value => simp [absorbing.absorb]

theorem absorbing_replace : Absorbing fun (_ : Option α) upper => upper :=
  ⟨layering_replace, fun _ _ => rfl⟩

end Dictionary

open Dictionary

theorem RuleSetting.absorbing_over : Absorbing RuleSetting.over where
  toLayering := layering_over
  absorb between setting := by
    cases given : setting.options <;> simp [RuleSetting.over, given]

namespace Layer

/-! ## Merging -/

theorem merge_absorb (layer between : Layer) :
    layer.merge (between.merge layer) = between.merge layer := by
  have declared {β : Type} (own other : Option β) : (own.or other).or own = own.or other := by
    cases own <;> simp
  simp only [merge, NameSet.union, Layer.mk.injEq, declared, true_and]
  exact ⟨overlay_absorb absorbing_replace _ _, overlay_absorb absorbing_replace _ _,
    overlay_absorb absorbing_replace _ _, overlay_absorb RuleSetting.absorbing_over _ _⟩

theorem merge_self (layer : Layer) : layer.merge layer = layer := by
  have absorbed := layer.merge_absorb neutral
  rwa [neutral_merge] at absorbed

/-! ## Cascades -/

theorem mergeAll_append (before : List Layer) {after : List Layer} (nonempty : after ≠ []) :
    mergeAll (before ++ after) = (mergeAll before).merge (mergeAll after) := by
  rw [mergeAll, List.foldl_append]
  exact foldl_merge_eq (mergeAll before) nonempty

theorem mergeAll_append_singleton (before : List Layer) (layer : Layer) :
    mergeAll (before ++ [layer]) = (mergeAll before).merge layer := by
  rw [mergeAll, List.foldl_append]
  rfl

theorem mergeAll_cons_of_mem {layer : Layer} {rest : List Layer} (again : layer ∈ rest) :
    mergeAll (layer :: rest) = mergeAll rest := by
  obtain ⟨between, after, rfl⟩ := List.append_of_mem again
  -- Up to the second copy the first one is absorbed; what follows is merged onto that.
  have upToCopy : mergeAll (layer :: (between ++ [layer])) = mergeAll (between ++ [layer]) := by
    have split := mergeAll_append [layer] (List.append_ne_nil_of_right_ne_nil between
      (List.cons_ne_nil layer []))
    rw [List.singleton_append] at split
    rw [split, mergeAll_append_singleton, mergeAll_cons, List.foldl_nil, merge_absorb]
  have regroup : between ++ layer :: after = between ++ [layer] ++ after := by simp
  rw [regroup, ← List.cons_append, mergeAll, mergeAll, List.foldl_append, List.foldl_append]
  exact congrArg (after.foldl merge) upToCopy

theorem mergeAll_append_congr (before : List Layer) {first second : List Layer}
    (firstNonempty : first ≠ []) (secondNonempty : second ≠ [])
    (same : mergeAll first = mergeAll second) :
    mergeAll (before ++ first) = mergeAll (before ++ second) := by
  rw [mergeAll_append before firstNonempty, mergeAll_append before secondNonempty, same]

theorem mergeAll_append_cons_of_mem (before : List Layer) {layer : Layer} {rest : List Layer}
    (again : layer ∈ rest) : mergeAll (before ++ layer :: rest) = mergeAll (before ++ rest) :=
  mergeAll_append_congr before (List.cons_ne_nil layer rest) (List.ne_nil_of_mem again)
    (mergeAll_cons_of_mem again)

open scoped Classical in
theorem mergeAll_filter_append (before after : List Layer) (layer : Layer) :
    mergeAll (before.filter (· ≠ layer) ++ layer :: after) =
      mergeAll (before ++ layer :: after) := by
  induction before with
  | nil => rfl
  | cons first rest ih =>
      by_cases same : first = layer
      · subst same
        rw [List.filter_cons_of_neg (by simp), ih, List.cons_append,
          mergeAll_cons_of_mem (List.mem_append_right rest List.mem_cons_self)]
      · rw [List.filter_cons_of_pos (by simpa using same), List.cons_append, List.cons_append]
        exact mergeAll_append_congr [first] (by simp) (by simp) ih

open scoped Classical in
theorem mergeAll_dedup (layers : List Layer) : mergeAll layers.dedup = mergeAll layers := by
  induction layers with
  | nil => rfl
  | cons first rest ih =>
      by_cases again : first ∈ rest
      · rw [List.dedup_cons_of_mem again, mergeAll_cons_of_mem again, ih]
      · rw [List.dedup_cons_of_notMem again]
        by_cases last : rest = []
        · simp [last]
        · have dedupNonempty : rest.dedup ≠ [] := by simpa using last
          exact mergeAll_append_congr [first] dedupNonempty last ih

theorem resolve_congr {registry : Registry} {first second : List Layer}
    (same : mergeAll first = mergeAll second) (policy : Policy) :
    resolve registry first = .ok policy ↔ resolve registry second = .ok policy := by
  rw [resolve_eq_ok_iff, resolve_eq_ok_iff, same]

open scoped Classical in
/--
Of a repeated layer only the last copy counts: a copy with another one after it may be
left out of a merge, and a cascade resolves to a policy just if it does so without the
earlier copies of one layer, or of all layers.
-/
theorem merge_depends_on_last_copies :
    (∀ (before between after : List Layer) (layer : Layer),
        mergeAll (before ++ [layer] ++ between ++ [layer] ++ after) =
          mergeAll (before ++ between ++ [layer] ++ after)) ∧
      (∀ layer : Layer, layer.merge layer = layer) ∧
      ∀ (registry : Registry) (policy : Policy),
        (∀ (before after : List Layer) (layer : Layer),
          resolve registry (before ++ [layer] ++ after) = .ok policy ↔
            resolve registry (before.filter (· ≠ layer) ++ [layer] ++ after) = .ok policy) ∧
          ∀ layers : List Layer,
            resolve registry layers = .ok policy ↔ resolve registry layers.dedup = .ok policy := by
  refine ⟨?_, merge_self, fun registry policy => ⟨?_, ?_⟩⟩
  · intro before between after layer
    have again : layer ∈ between ++ layer :: after :=
      List.mem_append_right between List.mem_cons_self
    simpa using mergeAll_append_cons_of_mem before again
  · intro before after layer
    have same := mergeAll_filter_append before after layer
    rw [List.append_assoc, List.append_assoc, List.singleton_append]
    exact resolve_congr same.symm policy
  · intro layers
    exact resolve_congr (mergeAll_dedup layers).symm policy

/-- The options stand between the two copies: the later copy lowers the severity and keeps them. -/
example :
    let binding (name : String) (setting : RuleSetting) : Layer :=
      { empty name .inherited with
        rules := (∅ : Dictionary RuleSetting).insert "quote-style" setting }
    let relaxed := binding "relaxed" ⟨.advisory, none⟩
    let strict := binding "strict" ⟨.blocking, some [.string "single"]⟩
    let settled (layers : List Layer) : Option RuleBinding :=
      (resolve .empty layers).toOption.bind (·.rules.get? "quote-style")
    settled [relaxed, strict, relaxed] = some ⟨.advisory, [.string "single"]⟩ ∧
      settled [strict, relaxed] = some ⟨.advisory, [.string "single"]⟩ ∧
      settled [relaxed, strict] = some ⟨.blocking, [.string "single"]⟩ :=
  ⟨rfl, rfl, rfl⟩

end Layer

end ScriptLint
