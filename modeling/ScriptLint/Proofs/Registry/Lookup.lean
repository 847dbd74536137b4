import ScriptLint.Proofs.Registry.Reachable

/-!
# Look-up of rules

All rules of a reachable registry were added under names that were free.  `Grown`
packages this as an induction: what holds without rules and is kept by adding a rule
under free names holds of every reachable registry.  In particular the table of
positions says exactly where each id stands, so a rule is found under its own id.
-/

namespace ScriptLint.Registry

/-! ## Names that are taken -/

theorem contains_foldl_insert (aliases : List String) (id : String) (table : Dictionary String)
    (name : String) :
    (aliases.foldl (fun table other => table.insert other id) table).contains name =
      (decide (name ∈ aliases) || table.contains name) := by
  induction aliases generalizing table with
  | nil => simp
  | cons first rest ih =>
      rw [List.foldl_cons, ih, Dictionary.contains_insert]
      by_cases isFirst : first = name
      · simp [isFirst]
      · simp [isFirst, Ne.symm isFirst]

theorem isTaken_add (registry : Registry) (plugin : Option String) (rule : Rule)
    (name : String) :
    (registry.add plugin rule).isTaken name =
      (decide (name ∈ rule.names plugin) || registry.isTaken name) := by
  rw [add]
  split
  · rename_i none
    simp [none]
  · rename_i id aliases names
    rw [names, isTaken, isTaken, contains_foldl_insert, Dictionary.contains_insert]
    by_cases isId : id = name
    · simp [isId]
    · simp [isId, Ne.symm isId, Bool.or_left_comm]

/-! ## Induction over registered rules -/

/-- What adding rules under free names keeps, and what does not look at anything else. -/
structure Grown (property : Registry → Prop) : Prop where
  start : ∀ environments, property { empty with environments }
  add : ∀ registry plugin rule, property registry → (rule.names plugin).Nodup →
    (∀ name ∈ rule.names plugin, registry.isTaken name = false) →
      property (registry.add plugin rule)
  others : ∀ registry plugins environments, property registry →
    property { registry with plugins, environments }

theorem Grown.addAll {property : Registry → Prop} (grown : Grown property)
    (plugin : Option String) {registry : Registry} {rules : List Rule}
    (before : property registry) (distinct : (rules.flatMap (·.names plugin)).Nodup)
    (free : ∀ name ∈ rules.flatMap (·.names plugin), registry.isTaken name = false) :
    property (rules.foldl (fun current rule => current.add plugin rule) registry) := by
  induction rules generalizing registry with
  | nil => exact before
  | cons rule rest ih =>
      rw [List.flatMap_cons] at distinct free
      obtain ⟨ownDistinct, restDistinct, disjoint⟩ := List.nodup_append.mp distinct
      have added := grown.add registry plugin rule before ownDistinct fun name member =>
        free name (List.mem_append_left _ member)
      apply ih added restDistinct
      intro name member
      have notOwn : name ∉ rule.names plugin := fun isOwn => disjoint name isOwn name member rfl
      simp [isTaken_add, notOwn, free name (List.mem_append_right _ member)]

theorem Reachable.of_grown {property : Registry → Prop} (grown : Grown property)
    {registry : Registry} (reachable : registry.Reachable) : property registry := by
  induction reachable with
  | empty => exact grown.start ∅
  | builtIn =>
      exact grown.addAll none (grown.start .builtIn) (nodup_names_builtIn _) fun _ _ => rfl
  | @register registry next rule before registered ih =>
      rw [Registry.register] at registered
      split at registered
      · cases registered
      · rename_i passed
        cases registered
        obtain ⟨distinct, free⟩ := checkNames_ok passed
        exact grown.add registry none rule ih distinct fun name member => (free name member).1
  | @registerPlugin registry next plugin before registered ih =>
      rw [Registry.registerPlugin] at registered
      split at registered
      · cases registered
      · split at registered
        · cases registered
        · rename_i passed
          cases registered
          obtain ⟨distinct, free⟩ := checkNames_ok passed
          have added := grown.addAll (some plugin.name) ih distinct
            fun name member => (free name member).1
          exact grown.others _ _ _ (grown.others _ _ _ added)

/-! ## Positions -/

/-- The table of positions says exactly where each id stands. -/
def Placed (registry : Registry) : Prop :=
  ∀ id position, registry.positions.get? id = some position ↔
    (registry.rules[position]?).map (·.id) = some id

theorem Placed.add {registry : Registry} (placed : registry.Placed) {plugin : Option String}
    {rule : Rule} (free : ∀ name ∈ rule.names plugin, registry.isTaken name = false) :
    (registry.add plugin rule).Placed := by
  rw [Registry.add]
  split
  · exact placed
  · rename_i id aliases names
    have idFree : registry.positions.get? id = none := by
      have contained := contains_positions_of_not_isTaken (free id (names ▸ List.mem_cons_self))
      simpa [Dictionary.contains] using contained
    intro other position
    have before := placed other position
    rw [Dictionary.get?_insert]
    rcases Nat.lt_trichotomy position registry.rules.length with old | new | beyond
    · have different : registry.rules.length ≠ position := by omega
      rw [List.getElem?_append_left old, ← before]
      by_cases isId : id = other
      · subst isId
        simp [idFree, different]
      · simp [isId]
    · subst new
      have absent : registry.positions.get? other ≠ some registry.rules.length := by
        rw [Ne, before]
        simp
      by_cases isId : id = other <;> simp [isId, absent]
    · have different : registry.rules.length ≠ position := by omega
      have absent : registry.positions.get? other ≠ some position := by
        rw [Ne, before]
        simp [Nat.le_of_lt beyond]
      have outside : (registry.rules ++ [⟨id, plugin, rule⟩])[position]? = none :=
        List.getElem?_eq_none (by rw [List.length_append]; exact beyond)
      rw [outside]
      by_cases isId : id = other <;> simp [isId, absent, different]

theorem Reachable.placed {registry : Registry} (reachable : registry.Reachable) :
    registry.Placed :=
  reachable.of_grown
    { start := fun _ _ _ => by simp [Registry.empty]
      add := fun _ _ _ before _ free => before.add free
      others := fun _ _ _ before => before }

namespace Placed

variable {registry : Registry}

theorem canonicalId?_id (placed : registry.Placed) {registered : RegisteredRule}
    (member : registered ∈ registry.rules) :
    registry.canonicalId? registered.id = some registered.id ∧
      registry.get? registered.id = some registered := by
  obtain ⟨position, found⟩ := List.mem_iff_getElem?.mp member
  have located : registry.positions.get? registered.id = some position :=
    (placed registered.id position).mpr (by rw [found, Option.map_some])
  have canonical : registry.canonicalId? registered.id = some registered.id := by
    simp [canonicalId?, Dictionary.contains, located]
  exact ⟨canonical, by simp [get?, canonical, located, found]⟩

end Placed

theorem mem_rules_of_get? {registry : Registry} {name : String} {registered : RegisteredRule}
    (found : registry.get? name = some registered) : registered ∈ registry.rules := by
  unfold get? at found
  split at found
  · cases found
  · split at found
    · cases found
    · exact List.mem_of_getElem? found

end ScriptLint.Registry
