import ScriptLint.Proofs.Registry.Lookup

/-!
# Histories of registries

A registry starts empty or with the built-in rules and is changed in place by calls
that register a rule or a plugin, of which any may fail.  After every history each rule
is found under its id and its aliases, and nothing else is found.  A call succeeds
exactly if all its names are new; it then appends its rules and leaves every name
its meaning, and a call that fails changes nothing.
-/

namespace ScriptLint

/-! ## Names of rules -/

def qualified (plugin : Option String) (name : String) : String :=
  match plugin with
  | none => name
  | some owner => s!"{owner}/{name}"

namespace RegisteredRule

def of (plugin : Option String) (rule : Rule) : RegisteredRule :=
  ⟨qualified plugin rule.name, plugin, rule⟩

def aliases (registered : RegisteredRule) : List String :=
  registered.rule.aliases.map (qualified registered.plugin)

def names (registered : RegisteredRule) : List String := registered.id :: registered.aliases

theorem names_of (plugin : Option String) (rule : Rule) :
    (of plugin rule).names = rule.names plugin := rfl

end RegisteredRule

namespace Registry

/-! ## Aliases -/

/-- Rules have their own names, and the aliases are those of the rules and are no ids. -/
structure Named (registry : Registry) : Prop where
  ids : ∀ registered ∈ registry.rules,
    registered.id = qualified registered.plugin registered.rule.name
  aliases : ∀ name id, registry.aliases.get? name = some id ↔
    ∃ registered ∈ registry.rules, registered.id = id ∧ name ∈ registered.aliases
  apart : ∀ name, registry.aliases.contains name = true → name ∉ registry.rules.map (·.id)

theorem get?_foldl_insert_const (names : List String) (id : String) (table : Dictionary String)
    (name : String) :
    (names.foldl (fun table other => table.insert other id) table).get? name =
      if name ∈ names then some id else table.get? name := by
  induction names generalizing table with
  | nil => simp
  | cons first rest ih =>
      rw [List.foldl_cons, ih, Dictionary.get?_insert]
      by_cases inRest : name ∈ rest
      · simp [inRest]
      · by_cases isFirst : first = name
        · simp [isFirst]
        · simp [inRest, isFirst, Ne.symm isFirst]

theorem rules_add (registry : Registry) (plugin : Option String) (rule : Rule) :
    (registry.add plugin rule).rules = registry.rules ++ [.of plugin rule] := rfl

theorem get?_aliases_add (registry : Registry) (plugin : Option String) (rule : Rule)
    (name : String) :
    (registry.add plugin rule).aliases.get? name =
      if name ∈ (RegisteredRule.of plugin rule).aliases
      then some (RegisteredRule.of plugin rule).id else registry.aliases.get? name :=
  get?_foldl_insert_const _ _ registry.aliases name

theorem Placed.contains_positions_iff {registry : Registry} (placed : registry.Placed)
    {name : String} :
    registry.positions.contains name = true ↔ name ∈ registry.rules.map (·.id) := by
  rw [Dictionary.contains, Option.isSome_iff_exists, List.mem_map]
  constructor
  · rintro ⟨position, located⟩
    obtain ⟨registered, here, same⟩ := Option.map_eq_some_iff.mp ((placed name position).mp located)
    exact ⟨registered, List.mem_of_getElem? here, same⟩
  · rintro ⟨registered, member, rfl⟩
    obtain ⟨position, here⟩ := List.mem_iff_getElem?.mp member
    exact ⟨position, (placed _ position).mpr (by rw [here, Option.map_some])⟩

theorem isTaken_eq_isSome (registry : Registry) (name : String) :
    registry.isTaken name = (registry.canonicalId? name).isSome := by
  simp only [isTaken, canonicalId?]
  cases registry.positions.contains name with
  | false => simp [Dictionary.contains]
  | true => simp

theorem Named.isTaken_of_mem_names {registry : Registry} (named : registry.Named)
    (placed : registry.Placed) {registered : RegisteredRule} (member : registered ∈ registry.rules)
    {name : String} (isName : name ∈ registered.names) : registry.isTaken name = true := by
  rcases List.mem_cons.mp isName with rfl | isAlias
  · rw [isTaken_eq_isSome, (placed.canonicalId?_id member).1, Option.isSome_some]
  · have found := (named.aliases name registered.id).mpr ⟨registered, member, rfl, isAlias⟩
    simp [isTaken, Dictionary.contains, found]

theorem Named.add {registry : Registry} (named : registry.Named) (placed : registry.Placed)
    {plugin : Option String} {rule : Rule} (distinct : (rule.names plugin).Nodup)
    (free : ∀ name ∈ rule.names plugin, registry.isTaken name = false) :
    (registry.add plugin rule).Named := by
  rw [← RegisteredRule.names_of] at distinct free
  have fresh : ∀ name ∈ (RegisteredRule.of plugin rule).names,
      ∀ registered ∈ registry.rules, name ∉ registered.names := by
    intro name isNew registered member isOld
    have taken := named.isTaken_of_mem_names placed member isOld
    rw [free name isNew] at taken
    cases taken
  refine ⟨?_, ?_, ?_⟩
  · intro registered member
    rw [rules_add] at member
    rcases List.mem_append.mp member with isOld | isNew
    · exact named.ids registered isOld
    · obtain rfl := List.mem_singleton.mp isNew
      rfl
  · intro name id
    rw [get?_aliases_add, rules_add]
    split
    · rename_i isNew
      constructor
      · intro found
        exact ⟨_, List.mem_append_right _ List.mem_cons_self, Option.some.inj found, isNew⟩
      · rintro ⟨registered, member, rfl, isAlias⟩
        rcases List.mem_append.mp member with isOld | isLast
        · exact absurd (List.mem_cons_of_mem _ isAlias)
            (fresh name (List.mem_cons_of_mem _ isNew) registered isOld)
        · obtain rfl := List.mem_singleton.mp isLast
          rfl
    · rename_i notNew
      rw [named.aliases]
      constructor
      · rintro ⟨registered, member, isId, isAlias⟩
        exact ⟨registered, List.mem_append_left _ member, isId, isAlias⟩
      · rintro ⟨registered, member, isId, isAlias⟩
        rcases List.mem_append.mp member with isOld | isLast
        · exact ⟨registered, isOld, isId, isAlias⟩
        · obtain rfl := List.mem_singleton.mp isLast
          exact absurd isAlias notNew
  · intro name contained isId
    rw [Dictionary.contains, get?_aliases_add] at contained
    rw [rules_add, List.map_append, List.mem_append] at isId
    split at contained
    · rename_i isNew
      rcases isId with isOld | isLast
      · obtain ⟨registered, member, rfl⟩ := List.mem_map.mp isOld
        exact fresh _ (List.mem_cons_of_mem _ isNew) registered member List.mem_cons_self
      · obtain rfl : name = (RegisteredRule.of plugin rule).id := by simpa using isLast
        exact (List.nodup_cons.mp distinct).1 isNew
    · rcases isId with isOld | isLast
      · exact named.apart name contained isOld
      · obtain rfl : name = (RegisteredRule.of plugin rule).id := by simpa using isLast
        have idFree := free _ List.mem_cons_self
        simp only [isTaken, Bool.or_eq_false_iff] at idFree
        exact absurd contained (by simpa [Dictionary.contains] using idFree.2)

theorem Reachable.named {registry : Registry} (reachable : registry.Reachable) :
    registry.Named := by
  have grown : Grown fun registry => registry.Placed ∧ registry.Named :=
    { start := fun _ =>
        ⟨fun _ _ => by simp [Registry.empty],
          ⟨fun _ member => (nomatch member), fun _ _ => by simp [Registry.empty],
            fun _ contained => (nomatch contained)⟩⟩
      add := fun _ _ _ before distinct free =>
        ⟨before.1.add free, before.2.add before.1 distinct free⟩
      others := fun _ _ _ before => ⟨before.1, before.2.ids, before.2.aliases, before.2.apart⟩ }
  exact (reachable.of_grown grown).2

/-! ## Look-up by any name -/

structure Consistent (registry : Registry) : Prop extends Named registry where
  distinct : (registry.rules.map (·.id)).Nodup
  positions : ∀ id position, registry.positions.get? id = some position ↔
    (registry.rules[position]?).map (·.id) = some id

theorem Reachable.consistent {registry : Registry} (reachable : registry.Reachable) :
    registry.Consistent :=
  { reachable.named with
    distinct := reachable.indexed.distinct
    positions := reachable.placed }

namespace Consistent

variable {registry : Registry}

theorem placed (consistent : registry.Consistent) : registry.Placed := consistent.positions

theorem canonicalId?_eq_some_iff (consistent : registry.Consistent) {name id : String} :
    registry.canonicalId? name = some id ↔
      ∃ registered ∈ registry.rules, registered.id = id ∧ name ∈ registered.names := by
  rw [canonicalId?]
  split
  · rename_i isId
    have listed := consistent.placed.contains_positions_iff.mp isId
    constructor
    · intro found
      obtain rfl := Option.some.inj found
      obtain ⟨registered, member, rfl⟩ := List.mem_map.mp listed
      exact ⟨registered, member, rfl, List.mem_cons_self⟩
    · rintro ⟨registered, member, rfl, isName⟩
      rcases List.mem_cons.mp isName with rfl | isAlias
      · rfl
      · have found := (consistent.aliases name _).mpr ⟨registered, member, rfl, isAlias⟩
        exact absurd listed (consistent.apart name (by simp [Dictionary.contains, found]))
  · rename_i notId
    rw [consistent.aliases]
    constructor
    · rintro ⟨registered, member, same, isAlias⟩
      exact ⟨registered, member, same, List.mem_cons_of_mem _ isAlias⟩
    · rintro ⟨registered, member, same, isName⟩
      rcases List.mem_cons.mp isName with rfl | isAlias
      · exact absurd (consistent.placed.contains_positions_iff.mpr (List.mem_map_of_mem member))
          notId
      · exact ⟨registered, member, same, isAlias⟩

theorem get?_eq_some_iff (consistent : registry.Consistent) {name : String}
    {registered : RegisteredRule} :
    registry.get? name = some registered ↔
      registered ∈ registry.rules ∧ name ∈ registered.names := by
  have byId : ∀ {id : String}, registry.canonicalId? name = some id →
      registry.get? name = registry.get? id := by
    intro id canonical
    obtain ⟨owner, member, rfl, -⟩ := consistent.canonicalId?_eq_some_iff.mp canonical
    have own := (consistent.placed.canonicalId?_id member).1
    simp only [get?, canonical, own]
  constructor
  · intro found
    cases canonical : registry.canonicalId? name with
    | none => simp [get?, canonical] at found
    | some id =>
        obtain ⟨owner, member, rfl, isName⟩ := consistent.canonicalId?_eq_some_iff.mp canonical
        rw [byId canonical, (consistent.placed.canonicalId?_id member).2] at found
        obtain rfl := Option.some.inj found
        exact ⟨member, isName⟩
  · rintro ⟨member, isName⟩
    have canonical := consistent.canonicalId?_eq_some_iff.mpr ⟨registered, member, rfl, isName⟩
    rw [byId canonical]
    exact (consistent.placed.canonicalId?_id member).2

variable {next : Registry} {name : String}

theorem canonicalId?_of_subset (consistent : registry.Consistent) (nextConsistent : next.Consistent)
    (kept : registry.rules ⊆ next.rules) {id : String}
    (found : registry.canonicalId? name = some id) : next.canonicalId? name = some id := by
  obtain ⟨registered, member, same, isName⟩ := consistent.canonicalId?_eq_some_iff.mp found
  exact nextConsistent.canonicalId?_eq_some_iff.mpr ⟨registered, kept member, same, isName⟩

theorem get?_of_subset (consistent : registry.Consistent) (nextConsistent : next.Consistent)
    (kept : registry.rules ⊆ next.rules) {registered : RegisteredRule}
    (found : registry.get? name = some registered) : next.get? name = some registered := by
  obtain ⟨member, isName⟩ := consistent.get?_eq_some_iff.mp found
  exact nextConsistent.get?_eq_some_iff.mpr ⟨kept member, isName⟩

end Consistent

/-! ## Calls -/

theorem checkNames_eq_ok_iff {registry : Registry} {pending : NameSet} {names : List String} :
    registry.checkNames pending names = .ok () ↔
      names.Nodup ∧ ∀ name ∈ names,
        registry.isTaken name = false ∧ pending.contains name = false := by
  refine ⟨checkNames_ok, ?_⟩
  rintro ⟨distinct, free⟩
  induction names generalizing pending with
  | nil => rfl
  | cons name rest ih =>
      obtain ⟨notInRest, restDistinct⟩ := List.nodup_cons.mp distinct
      obtain ⟨notTaken, notPending⟩ := free name List.mem_cons_self
      rw [checkNames, notTaken, notPending]
      apply ih restDistinct
      intro other member
      obtain ⟨otherFree, otherNotPending⟩ := free other (List.mem_cons_of_mem name member)
      have different : name ≠ other := fun same => notInRest (same ▸ member)
      exact ⟨otherFree, by simp [NameSet.add, different, otherNotPending]⟩

end Registry

inductive Registration where
  | ofRule (rule : Rule)
  | ofPlugin (plugin : Plugin)

namespace Registration

def run (registry : Registry) : Registration → Except RegistryError Registry
  | .ofRule rule => registry.register rule
  | .ofPlugin plugin => registry.registerPlugin plugin

def rules : Registration → List RegisteredRule
  | .ofRule rule => [.of none rule]
  | .ofPlugin plugin => plugin.rules.map (.of (some plugin.name))

def names (call : Registration) : List String := call.rules.flatMap RegisteredRule.names

/-- The plugin is not there yet, and all names are new and differ from each other. -/
structure Admissible (registry : Registry) (call : Registration) : Prop where
  newPlugin : ∀ plugin, call = .ofPlugin plugin → registry.configs? plugin.name = none
  distinct : call.names.Nodup
  newNames : ∀ name ∈ call.names, registry.canonicalId? name = none

/-! ## Changes in place -/

abbrev Action := Registry → Except RegistryError Registry

def actions : Registration → List Action
  | .ofRule rule =>
      [fun registry => (registry.checkNames ∅ (rule.names none)).map fun _ => registry,
        fun registry => .ok (registry.add none rule)]
  | .ofPlugin plugin =>
      [fun registry =>
          if registry.plugins.contains plugin.name then .error (.duplicatePlugin plugin.name)
          else .ok registry,
        fun registry =>
          (registry.checkNames ∅ (plugin.rules.flatMap (·.names (some plugin.name)))).map
            fun _ => registry] ++
      (plugin.rules.map fun rule registry => .ok (registry.add (some plugin.name) rule)) ++
      [fun registry => .ok (registry.addEnvironments plugin),
        fun registry => .ok
          { registry with plugins := registry.plugins.insert plugin.name plugin.configs }]

/-- Acts on a registry in place: at a failure, what was changed before it stays changed. -/
def perform : List Action → Registry → Option RegistryError × Registry
  | [], registry => (none, registry)
  | action :: rest, registry =>
      match action registry with
      | .error error => (some error, registry)
      | .ok next => perform rest next

theorem perform_additions (plugin : Option String) (rules : List Rule) (rest : List Action)
    (registry : Registry) :
    perform ((rules.map fun rule registry => .ok (registry.add plugin rule)) ++ rest) registry =
      perform rest (rules.foldl (fun current rule => current.add plugin rule) registry) := by
  induction rules generalizing registry with
  | nil => rfl
  | cons rule others ih => exact ih (registry.add plugin rule)

theorem perform_actions (call : Registration) (registry : Registry) :
    perform call.actions registry =
      match call.run registry with
      | .error error => (some error, registry)
      | .ok next => (none, next) := by
  cases call with
  | ofRule rule =>
      cases passed : registry.checkNames ∅ (rule.names none) <;>
        simp [actions, perform, run, Registry.register, passed, Except.map]
  | ofPlugin plugin =>
      cases known : registry.plugins.contains plugin.name with
      | true => simp [actions, perform, run, Registry.registerPlugin, known]
      | false =>
          cases passed :
              registry.checkNames ∅ (plugin.rules.flatMap (·.names (some plugin.name))) with
          | error error =>
              simp [actions, perform, run, Registry.registerPlugin, known, passed, Except.map]
          | ok =>
              simp [actions, perform, run, Registry.registerPlugin, known, passed, Except.map,
                perform_additions]

end Registration

namespace Registry

/-! ## Histories -/

inductive Origin where
  | empty
  | builtIn (engine : PatternEngine)

def Origin.registry : Origin → Registry
  | .empty => .empty
  | .builtIn engine => .builtIn engine

def after (registry : Registry) (call : Registration) : Registry :=
  (Registration.perform call.actions registry).2

def history (origin : Origin) (calls : List Registration) : Registry :=
  calls.foldl after origin.registry

theorem Reachable.after {registry : Registry} (reachable : registry.Reachable)
    (call : Registration) : (registry.after call).Reachable := by
  rw [Registry.after, call.perform_actions]
  cases outcome : call.run registry with
  | error error => exact reachable
  | ok next =>
      cases call with
      | ofRule rule => exact reachable.register outcome
      | ofPlugin plugin => exact reachable.registerPlugin outcome

theorem reachable_history (origin : Origin) (calls : List Registration) :
    (history origin calls).Reachable := by
  have start : origin.registry.Reachable := by
    cases origin with
    | empty => exact .empty
    | builtIn => exact .builtIn
  have continued (registry : Registry) (reachable : registry.Reachable) :
      (calls.foldl Registry.after registry).Reachable := by
    induction calls generalizing registry with
    | nil => exact reachable
    | cons call rest ih => exact ih _ (reachable.after call)
  exact continued origin.registry start

end Registry

namespace Registration

variable {registry next : Registry}

theorem rules_foldl_add (plugin : Option String) (rules : List Rule) (registry : Registry) :
    (rules.foldl (fun current rule => current.add plugin rule) registry).rules =
      registry.rules ++ rules.map (.of plugin) := by
  induction rules generalizing registry with
  | nil => simp
  | cons rule rest ih => rw [List.foldl_cons, ih, Registry.rules_add, List.map_cons,
      List.append_assoc, List.singleton_append]

def outcome (registry : Registry) : Registration → Registry
  | .ofRule rule => registry.add none rule
  | .ofPlugin plugin =>
      let added :=
        plugin.rules.foldl (fun current rule => current.add (some plugin.name) rule) registry
      { added.addEnvironments plugin with
        plugins := (added.addEnvironments plugin).plugins.insert plugin.name plugin.configs }

theorem rules_outcome (call : Registration) (registry : Registry) :
    (call.outcome registry).rules = registry.rules ++ call.rules := by
  cases call with
  | ofRule rule => rfl
  | ofPlugin plugin => exact rules_foldl_add (some plugin.name) plugin.rules registry

theorem names_ofRule (rule : Rule) : (ofRule rule).names = rule.names none := by
  simp [names, rules, RegisteredRule.names_of]

theorem names_ofPlugin (plugin : Plugin) :
    (ofPlugin plugin).names = plugin.rules.flatMap (·.names (some plugin.name)) := by
  simp [names, rules, List.flatMap_map, RegisteredRule.names_of]

theorem admissible_iff (call : Registration) :
    call.Admissible registry ↔
      (∀ plugin, call = .ofPlugin plugin → registry.configs? plugin.name = none) ∧
        registry.checkNames ∅ call.names = .ok () := by
  have passed : registry.checkNames ∅ call.names = .ok () ↔
      call.names.Nodup ∧ ∀ name ∈ call.names, registry.canonicalId? name = none := by
    rw [Registry.checkNames_eq_ok_iff]
    simp [Registry.isTaken_eq_isSome, Dictionary.contains]
  rw [passed]
  constructor
  · intro admissible
    exact ⟨admissible.newPlugin, admissible.distinct, admissible.newNames⟩
  · rintro ⟨newPlugin, distinct, newNames⟩
    exact ⟨newPlugin, distinct, newNames⟩

theorem run_eq_ok_iff (call : Registration) :
    call.run registry = .ok next ↔ call.Admissible registry ∧ next = call.outcome registry := by
  rw [admissible_iff]
  cases call with
  | ofRule rule =>
      rw [names_ofRule]
      cases passed : registry.checkNames ∅ (rule.names none) with
      | error error => simp [run, Registry.register, passed]
      | ok => simp [run, Registry.register, passed, outcome, eq_comm]
  | ofPlugin plugin =>
      rw [names_ofPlugin]
      cases known : registry.plugins.get? plugin.name with
      | some configs =>
          simp [run, Registry.registerPlugin, Registry.configs?, Dictionary.contains, known]
      | none =>
          cases passed :
              registry.checkNames ∅ (plugin.rules.flatMap (·.names (some plugin.name))) with
          | error error =>
              simp [run, Registry.registerPlugin, Dictionary.contains, known, passed]
          | ok =>
              simp [run, Registry.registerPlugin, Registry.configs?, Dictionary.contains, known,
                passed, outcome, eq_comm]

end Registration

namespace Registry

/--
After every history ids are distinct, the tables say where each rule is and which rule each
alias stands for, and so a rule is found under each of its names and under no other.  A
further call succeeds exactly if it is admissible.  It then adds its rules after the
others and every name keeps its meaning; if it fails, nothing has changed.
-/
theorem history_keeps_names (origin : Origin) (calls : List Registration) :
    let registry := history origin calls
    registry.Consistent ∧
      (∀ registered ∈ registry.rules, registry.get? registered.id = some registered ∧
        ∀ spelling ∈ registered.rule.aliases,
          registry.get? (qualified registered.plugin spelling) = some registered) ∧
      (∀ name registered, registry.get? name = some registered →
        registered ∈ registry.rules ∧ name ∈ registered.names) ∧
      (∀ name id, registry.canonicalId? name = some id → registry.canonicalId? id = some id) ∧
      ∀ call : Registration,
        ((∃ next, call.run registry = .ok next) ↔ call.Admissible registry) ∧
        (∀ error, call.run registry = .error error →
          Registration.perform call.actions registry = (some error, registry)) ∧
        ∀ next, call.run registry = .ok next →
          Registration.perform call.actions registry = (none, next) ∧
            next.rules = registry.rules ++ call.rules ∧
            (∀ name id, registry.canonicalId? name = some id →
              next.canonicalId? name = some id) ∧
            ∀ name registered, registry.get? name = some registered →
              next.get? name = some registered := by
  intro registry
  have consistent : registry.Consistent := (reachable_history origin calls).consistent
  refine ⟨consistent, ?_, ?_, ?_, ?_⟩
  · intro registered member
    refine ⟨consistent.get?_eq_some_iff.mpr ⟨member, List.mem_cons_self⟩, ?_⟩
    intro spelling isAlias
    exact consistent.get?_eq_some_iff.mpr
      ⟨member, List.mem_cons_of_mem _ (List.mem_map_of_mem isAlias)⟩
  · intro name registered found
    exact consistent.get?_eq_some_iff.mp found
  · intro name id found
    obtain ⟨registered, member, rfl, -⟩ := consistent.canonicalId?_eq_some_iff.mp found
    exact (consistent.placed.canonicalId?_id member).1
  · intro call
    refine ⟨?_, ?_, ?_⟩
    · constructor
      · rintro ⟨next, succeeds⟩
        exact (call.run_eq_ok_iff.mp succeeds).1
      · intro admissible
        exact ⟨_, call.run_eq_ok_iff.mpr ⟨admissible, rfl⟩⟩
    · intro error fails
      rw [call.perform_actions, fails]
    · intro next succeeds
      have performed : Registration.perform call.actions registry = (none, next) := by
        rw [call.perform_actions, succeeds]
      have nextConsistent : next.Consistent := by
        have continued := (reachable_history origin calls).after call
        rw [after, performed] at continued
        exact continued.consistent
      have appended : next.rules = registry.rules ++ call.rules := by
        rw [(call.run_eq_ok_iff.mp succeeds).2, call.rules_outcome]
      have kept : registry.rules ⊆ next.rules := by
        rw [appended]
        exact List.subset_append_left _ _
      exact ⟨performed, appended,
        fun _ _ => consistent.canonicalId?_of_subset nextConsistent kept,
        fun _ _ => consistent.get?_of_subset nextConsistent kept⟩

end Registry

end ScriptLint
