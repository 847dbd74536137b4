import ScriptLint.Cascade.Merge
import ScriptLint.Proofs.Dictionary.Lookup

/-!
# Grouping of layers

Merging layers is associative, and the neutral layer changes nothing but the name
and the kind.  Whether a cascade can be resolved, and to which policy, depends on the
merged layer only, although the rules of plugins are checked layer by layer.  So
layers may be merged in groups first.
-/

namespace ScriptLint

/-! ## Dictionaries in layers -/

namespace Dictionary

universe u

variable {α : Type u}

/--
Laws that make laying dictionaries over each other associative: a value with nothing
below it stays as it is, and it does not matter which two of three values are
combined first.
-/
structure Layering (combine : Option α → α → α) : Prop where
  alone : ∀ upper, combine none upper = upper
  assoc : ∀ lower middle upper,
    combine (some (combine lower middle)) upper = combine lower (combine (some middle) upper)

theorem overlay_assoc {combine : Option α → α → α} (layering : Layering combine)
    (lower middle upper : Dictionary α) :
    overlay combine (overlay combine lower middle) upper =
      overlay combine lower (overlay combine middle upper) := by
  ext key
  rw [get?_overlay, get?_overlay, get?_overlay, get?_overlay]
  cases upper.get? key with
  | none => simp
  | some top =>
      cases middle.get? key with
      | none => simp [layering.alone]
      | some between => simp [layering.assoc]

theorem empty_overlay {combine : Option α → α → α} (layering : Layering combine)
    (upper : Dictionary α) : overlay combine ∅ upper = upper := by
  ext key
  rw [get?_overlay]
  cases upper.get? key <;> simp [layering.alone]

@[simp] theorem overlay_empty (combine : Option α → α → α) (lower : Dictionary α) :
    overlay combine lower ∅ = lower := by
  ext key
  simp

theorem layering_replace : Layering fun (_ : Option α) upper => upper :=
  ⟨fun _ => rfl, fun _ _ _ => rfl⟩

end Dictionary

open Dictionary

theorem RuleSetting.layering_over : Layering RuleSetting.over where
  alone upper := by simp [RuleSetting.over]
  assoc lower middle upper := by simp [RuleSetting.over, Option.or_assoc]

namespace Layer

/-! ## Merging -/

theorem merge_assoc (first second third : Layer) :
    (first.merge second).merge third = first.merge (second.merge third) := by
  simp only [merge, NameSet.union, Layer.mk.injEq, Option.or_assoc, true_and]
  exact ⟨overlay_assoc layering_replace _ _ _, overlay_assoc layering_replace _ _ _,
    overlay_assoc layering_replace _ _ _, overlay_assoc RuleSetting.layering_over _ _ _⟩

theorem neutral_merge (layer : Layer) : neutral.merge layer = layer := by
  obtain ⟨name, kind, environments, syntaxVersion, sourceType, plugins, globals, rules⟩ := layer
  simp only [merge, neutral, empty, NameSet.union, Option.or_none, Layer.mk.injEq, true_and]
  exact ⟨empty_overlay layering_replace _, empty_overlay layering_replace _,
    empty_overlay layering_replace _, empty_overlay RuleSetting.layering_over _⟩

theorem merge_neutral (layer : Layer) :
    { layer.merge neutral with name := layer.name, kind := layer.kind } = layer := by
  simp [merge, neutral, empty, NameSet.union]

theorem contains_rules_merge (earlier later : Layer) (id : String) :
    (earlier.merge later).rules.contains id =
      (earlier.rules.contains id || later.rules.contains id) :=
  contains_overlay RuleSetting.over earlier.rules later.rules id

theorem contains_environments_merge (earlier later : Layer) (id : String) :
    (earlier.merge later).environments.contains id =
      (earlier.environments.contains id || later.environments.contains id) :=
  contains_overlay _ earlier.environments later.environments id

/-! ## Groups -/

theorem mergeAll_cons (first : Layer) (rest : List Layer) :
    mergeAll (first :: rest) = rest.foldl merge first := by
  rw [mergeAll, List.foldl_cons, neutral_merge]

theorem foldl_merge_eq (layer : Layer) {layers : List Layer} (nonempty : layers ≠ []) :
    layers.foldl merge layer = layer.merge (mergeAll layers) := by
  induction layers generalizing layer with
  | nil => exact absurd rfl nonempty
  | cons first rest ih =>
      rw [List.foldl_cons, mergeAll_cons]
      by_cases last : rest = []
      · simp [last]
      · rw [ih (layer.merge first) last, ih first last, merge_assoc]

theorem foldl_merge_map_mergeAll (layer : Layer) {groups : List (List Layer)}
    (nonempty : ∀ group ∈ groups, group ≠ []) :
    (groups.map mergeAll).foldl merge layer = groups.flatten.foldl merge layer := by
  induction groups generalizing layer with
  | nil => rfl
  | cons group rest ih =>
      rw [List.map_cons, List.foldl_cons, List.flatten_cons, List.foldl_append,
        foldl_merge_eq layer (nonempty group List.mem_cons_self)]
      exact ih _ fun later member => nonempty later (List.mem_cons_of_mem _ member)

theorem mergeAll_map_mergeAll {groups : List (List Layer)}
    (nonempty : ∀ group ∈ groups, group ≠ []) :
    mergeAll (groups.map mergeAll) = mergeAll groups.flatten :=
  foldl_merge_map_mergeAll neutral nonempty

/-! ## Rules of plugins -/

def isDeclared (registry : Registry) (declared : List String) (id : String) : Bool :=
  match (registry.get? id).bind (·.plugin) with
  | some plugin => declared.contains plugin
  | none => true

theorem undeclaredRule?_eq_none_iff {registry : Registry} {declared : List String}
    {layer : Layer} :
    layer.undeclaredRule? registry declared = none ↔
      ∀ id, layer.rules.contains id = true → isDeclared registry declared id = true := by
  simp only [undeclaredRule?, List.find?_eq_none, mem_keys_iff]
  apply forall_congr'
  intro id
  apply imp_congr_right
  intro _
  cases owner : (registry.get? id).bind (·.plugin) <;> simp [isDeclared, owner]

theorem checkPluginRules_eq_ok_iff {registry : Registry} {declared : List String}
    {layers : List Layer} :
    checkPluginRules registry declared layers = .ok () ↔
      ∀ layer ∈ layers, ∀ id, layer.rules.contains id = true →
        isDeclared registry declared id = true := by
  induction layers with
  | nil => simp [checkPluginRules]
  | cons layer rest ih =>
      rw [checkPluginRules, List.forall_mem_cons, ← undeclaredRule?_eq_none_iff]
      cases found : layer.undeclaredRule? registry declared with
      | none => simpa using ih
      | some id => simp

theorem mergeAll_any (has : Layer → Bool) (absent : has neutral = false)
    (joined : ∀ earlier later : Layer, has (earlier.merge later) = (has earlier || has later))
    (layers : List Layer) : has (mergeAll layers) = layers.any has := by
  have folded (layer : Layer) :
      has (layers.foldl merge layer) = (has layer || layers.any has) := by
    induction layers generalizing layer with
    | nil => simp
    | cons first rest ih => rw [List.foldl_cons, ih, joined, List.any_cons, Bool.or_assoc]
  rw [mergeAll, folded, absent, Bool.false_or]

theorem contains_rules_mergeAll (layers : List Layer) (id : String) :
    (mergeAll layers).rules.contains id = layers.any fun layer => layer.rules.contains id :=
  mergeAll_any (fun layer => layer.rules.contains id) rfl
    (fun earlier later => contains_rules_merge earlier later id) layers

theorem contains_plugins_mergeAll (layers : List Layer) (plugin : String) :
    (mergeAll layers).plugins.contains plugin =
      layers.any fun layer => layer.plugins.contains plugin :=
  mergeAll_any (fun layer => layer.plugins.contains plugin) rfl
    (fun earlier later => contains_overlay _ earlier.plugins later.plugins plugin) layers

theorem isDeclared_mergeAll (registry : Registry) (layers : List Layer) (id : String) :
    isDeclared registry (declaredPlugins layers) id =
      isDeclared registry (mergeAll layers).plugins.keys id := by
  have sameMembers (plugin : String) : (declaredPlugins layers).contains plugin =
      (mergeAll layers).plugins.keys.contains plugin := by
    rw [Bool.eq_iff_iff, List.contains_iff_mem, List.contains_iff_mem, mem_keys_iff,
      contains_plugins_mergeAll]
    simp [declaredPlugins, mem_keys_iff]
  simp only [isDeclared, sameMembers]

theorem finish_eq_ok_iff {registry : Registry} {layer : Layer} {policy : Policy} :
    layer.finish registry = .ok policy ↔
      ∃ scope, registry.environments.resolve layer.environments = .ok scope ∧
        layer.policyIn scope = policy := by
  unfold finish
  cases registry.environments.resolve layer.environments <;> simp

theorem resolve_eq_ok_iff {registry : Registry} {layers : List Layer} {policy : Policy} :
    resolve registry layers = .ok policy ↔
      (∀ id, (mergeAll layers).rules.contains id = true →
          isDeclared registry (mergeAll layers).plugins.keys id = true) ∧
        (mergeAll layers).finish registry = .ok policy := by
  have checked : checkPluginRules registry (declaredPlugins layers) layers = .ok () ↔
      ∀ id, (mergeAll layers).rules.contains id = true →
        isDeclared registry (mergeAll layers).plugins.keys id = true := by
    rw [checkPluginRules_eq_ok_iff]
    simp only [isDeclared_mergeAll, contains_rules_mergeAll, List.any_eq_true]
    constructor
    · rintro known id ⟨layer, member, bound⟩
      exact known layer member id bound
    · intro known layer member id bound
      exact known id ⟨layer, member, bound⟩
  rw [← checked, resolve]
  cases checkPluginRules registry (declaredPlugins layers) layers <;> simp

theorem exists_scope_of_resolve {registry : Registry} {layers : List Layer} {policy : Policy}
    (resolved : resolve registry layers = .ok policy) :
    ∃ scope, registry.environments.resolve (mergeAll layers).environments = .ok scope ∧
      (mergeAll layers).policyIn scope = policy :=
  finish_eq_ok_iff.mp (resolve_eq_ok_iff.mp resolved).2

/--
Merging does not depend on grouping: it is associative, the neutral layer is an
identity up to name and kind, and a cascade may be cut into groups that are merged
first, with the same merged layer and the same policy, if it resolves at all.
-/
theorem merge_independent_of_grouping :
    (∀ first second third : Layer,
        (first.merge second).merge third = first.merge (second.merge third)) ∧
      (∀ layer : Layer, neutral.merge layer = layer ∧
        { layer.merge neutral with name := layer.name, kind := layer.kind } = layer) ∧
      ∀ groups : List (List Layer), (∀ group ∈ groups, group ≠ []) →
        mergeAll (groups.map mergeAll) = mergeAll groups.flatten ∧
          ∀ (registry : Registry) (policy : Policy),
            resolve registry (groups.map mergeAll) = .ok policy ↔
              resolve registry groups.flatten = .ok policy := by
  refine ⟨merge_assoc, fun layer => ⟨neutral_merge layer, merge_neutral layer⟩, ?_⟩
  intro groups nonempty
  have same := mergeAll_map_mergeAll nonempty
  refine ⟨same, ?_⟩
  intro registry policy
  rw [resolve_eq_ok_iff, resolve_eq_ok_iff, same]

end Layer

end ScriptLint
