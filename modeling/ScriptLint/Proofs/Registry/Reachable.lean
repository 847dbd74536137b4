import ScriptLint.Engine.Registry
import ScriptLint.Proofs.Dictionary.Lookup

/-!
# Registries that can be built

A registry is reachable if it is built from the empty or the built-in one by
registering rules and plugins.  Names are checked before anything is added, so the
ids of a reachable registry are pairwise distinct.
-/

namespace ScriptLint.Registry

inductive Reachable : Registry → Prop
  | empty : Reachable empty
  | builtIn {engine : PatternEngine} : Reachable (builtIn engine)
  | register {registry next : Registry} {rule : Rule} (before : Reachable registry)
      (registered : registry.register rule = .ok next) : Reachable next
  | registerPlugin {registry next : Registry} {plugin : Plugin} (before : Reachable registry)
      (registered : registry.registerPlugin plugin = .ok next) : Reachable next

theorem names_builtIn (engine : PatternEngine) :
    (Rules.builtIn engine).flatMap (·.names none) =
      ["statement-terminator", "semi", "quote-style", "quotes", "no-console", "no-debugger",
        "no-undef", "no-global-assign", "no-unused-vars", "no-var", "prefer-const",
        "prefer-template", "camelcase", "eqeqeq"] := rfl

theorem nodup_names_builtIn (engine : PatternEngine) :
    ((Rules.builtIn engine).flatMap (·.names none)).Nodup := by
  rw [names_builtIn]
  decide

/-! ## Names that pass the check -/

theorem checkNames_ok {registry : Registry} {pending : NameSet} {names : List String}
    (passed : registry.checkNames pending names = .ok ()) :
    names.Nodup ∧ ∀ name ∈ names,
      registry.isTaken name = false ∧ pending.contains name = false := by
  induction names generalizing pending with
  | nil => simp
  | cons name rest ih =>
      rw [checkNames] at passed
      split at passed
      · cases passed
      · rename_i free
        obtain ⟨distinct, restFree⟩ := ih passed
        simp only [NameSet.add, Dictionary.contains_insert, Bool.or_eq_false_iff,
          decide_eq_false_iff_not] at restFree
        simp only [Bool.or_eq_true, not_or, Bool.not_eq_true] at free
        constructor
        · exact List.nodup_cons.mpr ⟨fun member => (restFree name member).2.1 rfl, distinct⟩
        · intro other member
          rcases List.mem_cons.mp member with rfl | inRest
          · exact free
          · exact ⟨(restFree other inRest).1, (restFree other inRest).2.2⟩

theorem contains_positions_of_not_isTaken {registry : Registry} {name : String}
    (free : registry.isTaken name = false) : registry.positions.contains name = false := by
  simp only [isTaken, Bool.or_eq_false_iff] at free
  exact free.1

/-! ## Ids -/

structure Indexed (registry : Registry) : Prop where
  distinct : (registry.rules.map (·.id)).Nodup
  listed : ∀ registered ∈ registry.rules, registry.positions.contains registered.id = true

theorem Indexed.add {registry : Registry} (indexed : registry.Indexed) (plugin : Option String)
    (rule : Rule)
    (free : ∀ name ∈ rule.names plugin, registry.positions.contains name = false) :
    (registry.add plugin rule).Indexed := by
  rw [Registry.add]
  split
  · exact indexed
  · rename_i id aliases names
    have idFree : registry.positions.contains id = false :=
      free id (names ▸ List.mem_cons_self)
    constructor
    · rw [List.map_append, List.nodup_append]
      refine ⟨indexed.distinct, by simp, ?_⟩
      intro other isOld last isNew same
      obtain ⟨registered, member, rfl⟩ := List.mem_map.mp isOld
      obtain rfl : last = id := by simpa using isNew
      have listed := indexed.listed registered member
      rw [same, idFree] at listed
      cases listed
    · intro registered member
      rcases List.mem_append.mp member with isOld | isNew
      · simp [indexed.listed registered isOld]
      · obtain rfl := List.mem_singleton.mp isNew
        simp

theorem contains_positions_add {registry : Registry} {plugin : Option String} {rule : Rule}
    {name : String} (free : registry.positions.contains name = false)
    (other : name ∉ rule.names plugin) :
    (registry.add plugin rule).positions.contains name = false := by
  rw [Registry.add]
  split
  · exact free
  · rename_i id aliases names
    have different : id ≠ name := fun same => other (names ▸ same ▸ List.mem_cons_self)
    simp [different, free]

theorem Indexed.addAll {registry : Registry} (indexed : registry.Indexed)
    (plugin : Option String) {rules : List Rule}
    (distinct : (rules.flatMap (·.names plugin)).Nodup)
    (free : ∀ name ∈ rules.flatMap (·.names plugin), registry.positions.contains name = false) :
    (rules.foldl (fun current rule => current.add plugin rule) registry).Indexed := by
  induction rules generalizing registry with
  | nil => exact indexed
  | cons rule rest ih =>
      rw [List.flatMap_cons] at distinct free
      obtain ⟨-, restDistinct, disjoint⟩ := List.nodup_append.mp distinct
      have ruleFree : ∀ name ∈ rule.names plugin, registry.positions.contains name = false :=
        fun name member => free name (List.mem_append_left _ member)
      apply ih (indexed.add plugin rule ruleFree) restDistinct
      intro name member
      exact contains_positions_add (free name (List.mem_append_right _ member))
        fun isOwn => disjoint name isOwn name member rfl

private theorem indexed_empty (environments : EnvironmentTable) :
    Indexed { empty with environments } :=
  ⟨List.nodup_nil, fun _ member => nomatch member⟩

theorem Reachable.indexed {registry : Registry} (reachable : registry.Reachable) :
    registry.Indexed := by
  induction reachable with
  | empty => exact indexed_empty ∅
  | builtIn =>
      exact (indexed_empty .builtIn).addAll none (nodup_names_builtIn _) fun _ _ => rfl
  | @register registry next rule before registered ih =>
      rw [Registry.register] at registered
      split at registered
      · cases registered
      · rename_i passed
        cases registered
        exact ih.add none rule fun name member =>
          contains_positions_of_not_isTaken ((checkNames_ok passed).2 name member).1
  | @registerPlugin registry next plugin before registered ih =>
      rw [Registry.registerPlugin] at registered
      split at registered
      · cases registered
      · split at registered
        · cases registered
        · rename_i passed
          cases registered
          obtain ⟨distinct, free⟩ := checkNames_ok passed
          have added := ih.addAll (some plugin.name) distinct fun name member =>
            contains_positions_of_not_isTaken (free name member).1
          exact ⟨added.distinct, added.listed⟩

end ScriptLint.Registry
