import ScriptLint.Proofs.Registry.History

/-!
# Environments of plugins

An environment of a plugin is known as the name of the plugin, a slash and its own name.
In a reachable registry every other environment is built in, and its name has no slash.
Ids of environments of two plugins can be the same, but only if the name of one of the
plugins begins with the name of the other one and a slash.  A registration replaces an
environment in this case and in no other.
-/

namespace ScriptLint

/-! ## Qualified names -/

def Encloses (owner name : String) : Prop := ∃ inner, name = qualified (some owner) inner

def Nested (first second : String) : Prop := Encloses first second ∨ Encloses second first

theorem toList_qualified (owner name : String) :
    (qualified (some owner) name).toList = owner.toList ++ '/' :: name.toList := by
  simp [qualified, toString]

theorem slash_mem_qualified (owner name : String) :
    '/' ∈ (qualified (some owner) name).toList := by
  rw [toList_qualified]
  exact List.mem_append_right _ List.mem_cons_self

theorem qualified_injective (owner : String) : Function.Injective (qualified (some owner)) := by
  intro first second same
  rw [← String.toList_inj, toList_qualified, toList_qualified] at same
  exact String.toList_inj.mp (List.tail_eq_of_cons_eq (List.append_cancel_left same))

theorem encloses_iff {owner name : String} :
    Encloses owner name ↔ owner.toList ++ ['/'] <+: name.toList := by
  constructor
  · rintro ⟨inner, rfl⟩
    exact ⟨inner.toList, by simp [toList_qualified]⟩
  · rintro ⟨inner, whole⟩
    refine ⟨.ofList inner, ?_⟩
    rw [← String.toList_inj, toList_qualified, String.toList_ofList, ← whole]
    simp

instance (owner name : String) : Decidable (Encloses owner name) :=
  decidable_of_iff _ encloses_iff.symm

instance (first second : String) : Decidable (Nested first second) :=
  inferInstanceAs (Decidable (_ ∨ _))

theorem eq_or_encloses_of_begins {owner other : String}
    (shorter : owner.toList ++ ['/'] <+: other.toList ++ ['/']) :
    owner = other ∨ Encloses owner other := by
  rcases List.prefix_concat_iff.mp shorter with same | within
  · exact .inl (String.toList_inj.mp (List.append_cancel_right same))
  · exact .inr (encloses_iff.mpr within)

theorem eq_or_nested_of_qualified_eq {owner other name otherName : String}
    (same : qualified (some owner) name = qualified (some other) otherName) :
    owner = other ∨ Nested owner other := by
  have begins : owner.toList ++ ['/'] <+: (qualified (some owner) name).toList :=
    encloses_iff.mp ⟨name, rfl⟩
  have alsoBegins : other.toList ++ ['/'] <+: (qualified (some owner) name).toList :=
    encloses_iff.mp ⟨otherName, same⟩
  rcases List.prefix_or_prefix_of_prefix begins alsoBegins with shorter | shorter
  · exact (eq_or_encloses_of_begins shorter).imp_right .inl
  · exact (eq_or_encloses_of_begins shorter).imp Eq.symm .inr

/-! ## Adding environments -/

namespace Dictionary

variable {α : Type} {rename : String → String}

theorem get?_foldl_insert_renamed (injective : Function.Injective rename)
    {entries : List (String × α)}
    (ordered : entries.Pairwise (fun earlier later => earlier.1 < later.1))
    (start : Dictionary α) (key : String) :
    (entries.foldl (fun result entry => result.insert (rename entry.1) entry.2) start).get?
        (rename key) =
      (findEntry key entries).or (start.get? (rename key)) := by
  induction entries generalizing start with
  | nil => rfl
  | cons entry rest ih =>
      obtain ⟨headLess, restOrdered⟩ := List.pairwise_cons.mp ordered
      rw [List.foldl_cons, ih restOrdered, get?_insert, findEntry]
      by_cases same : entry.1 = key
      · subst same
        simp [findEntry_eq_none_of_lt headLess]
      · simp [same, injective.ne same]

theorem get?_foldl_insert_of_ne {entries : List (String × α)} (start : Dictionary α)
    {key : String} (other : ∀ entry ∈ entries, rename entry.1 ≠ key) :
    (entries.foldl (fun result entry => result.insert (rename entry.1) entry.2) start).get? key =
      start.get? key := by
  induction entries generalizing start with
  | nil => rfl
  | cons entry rest ih =>
      obtain ⟨different, restOther⟩ := List.forall_mem_cons.mp other
      rw [List.foldl_cons, ih _ restOther, get?_insert, if_neg different]

end Dictionary

def Plugin.Offers (plugin : Plugin) (id : String) : Prop :=
  ∃ name, plugin.environments.contains name = true ∧ id = qualified (some plugin.name) name

theorem Plugin.Offers.slash_mem {plugin : Plugin} {id : String} (offered : plugin.Offers id) :
    '/' ∈ id.toList := by
  obtain ⟨name, -, rfl⟩ := offered
  exact slash_mem_qualified plugin.name name

namespace Registry

variable {registry next : Registry} {plugin : Plugin}

theorem get?_addEnvironments (registry : Registry) (plugin : Plugin) (name : String) :
    (registry.addEnvironments plugin).environments.get? (qualified (some plugin.name) name) =
      (plugin.environments.get? name).or
        (registry.environments.get? (qualified (some plugin.name) name)) :=
  Dictionary.get?_foldl_insert_renamed (qualified_injective plugin.name)
    plugin.environments.ordered registry.environments name

theorem get?_addEnvironments_of_not_offers (registry : Registry) {id : String}
    (other : ¬ plugin.Offers id) :
    (registry.addEnvironments plugin).environments.get? id = registry.environments.get? id := by
  apply @Dictionary.get?_foldl_insert_of_ne Environment (qualified (some plugin.name))
  intro entry member same
  have owned : plugin.environments.contains entry.1 = true :=
    Dictionary.mem_keys_iff.mp (List.mem_map_of_mem member)
  exact other ⟨entry.1, owned, same.symm⟩

/-! ## What a registration changes -/

theorem others_foldl_add (owner : Option String) (rules : List Rule) (registry : Registry) :
    let added := rules.foldl (fun current rule => current.add owner rule) registry
    added.plugins = registry.plugins ∧ added.environments = registry.environments := by
  induction rules generalizing registry with
  | nil => exact ⟨rfl, rfl⟩
  | cons rule rest ih => exact ih (registry.add owner rule)

/-- A plugin that was not there comes with its rules, configurations and environments. -/
structure Adds (registry : Registry) (plugin : Plugin) (next : Registry) : Prop where
  absent : registry.plugins.contains plugin.name = false
  rules : next.rules = registry.rules ++ plugin.rules.map (.of (some plugin.name))
  plugins : next.plugins = registry.plugins.insert plugin.name plugin.configs
  environments : next.environments = (registry.addEnvironments plugin).environments

theorem adds_of_registerPlugin (registered : registry.registerPlugin plugin = .ok next) :
    registry.Adds plugin next := by
  have succeeds : (Registration.ofPlugin plugin).run registry = .ok next := registered
  obtain ⟨admissible, rfl⟩ := (Registration.run_eq_ok_iff _).mp succeeds
  obtain ⟨samePlugins, sameEnvironments⟩ :=
    others_foldl_add (some plugin.name) plugin.rules registry
  refine ⟨?_, Registration.rules_outcome _ registry, ?_, ?_⟩
  · rw [Dictionary.contains, Option.isSome_eq_false_iff, Option.isNone_iff_eq_none]
    exact admissible.newPlugin plugin rfl
  · simp only [Registration.outcome, addEnvironments, samePlugins]
  · simp only [Registration.outcome, addEnvironments, sameEnvironments]

/-! ## Where environments come from -/

/-- Each environment is built in, or a registered plugin may have added it. -/
def Attributed (registry : Registry) : Prop :=
  ∀ id, registry.environments.contains id = true →
    EnvironmentTable.builtIn.contains id = true ∨
      ∃ owner name, registry.plugins.contains owner = true ∧ id = qualified (some owner) name

theorem Attributed.adds (attributed : registry.Attributed) (adds : registry.Adds plugin next) :
    next.Attributed := by
  intro id known
  by_cases offered : plugin.Offers id
  · obtain ⟨name, -, isOwn⟩ := offered
    exact .inr ⟨plugin.name, name, by simp [adds.plugins], isOwn⟩
  · rw [adds.environments, Dictionary.contains,
      get?_addEnvironments_of_not_offers _ offered] at known
    refine (attributed id known).imp_right ?_
    rintro ⟨owner, name, isPlugin, isOwn⟩
    exact ⟨owner, name, by simp [adds.plugins, isPlugin], isOwn⟩

theorem Reachable.attributed (reachable : registry.Reachable) : registry.Attributed := by
  induction reachable with
  | empty => exact fun id known => by cases known
  | builtIn => exact fun id known => .inl known
  | @register registry next rule before registered ih =>
      rw [Registry.register] at registered
      split at registered
      · cases registered
      · cases registered
        exact ih
  | registerPlugin before registered ih => exact ih.adds (adds_of_registerPlugin registered)

theorem slash_notMem_of_builtIn {id : String}
    (known : EnvironmentTable.builtIn.contains id = true) : '/' ∉ id.toList := by
  have plain : ∀ name ∈ EnvironmentTable.builtIn.keys, '/' ∉ name.toList := by decide +kernel
  exact plain id (Dictionary.mem_keys_iff.mpr known)

/-- What is known under an id that a new plugin offers belongs to a plugin with a nested name. -/
theorem Attributed.nested_of_offers (attributed : registry.Attributed)
    (absent : registry.plugins.contains plugin.name = false) {id : String}
    (known : registry.environments.contains id = true) (offered : plugin.Offers id) :
    ∃ owner name, registry.plugins.contains owner = true ∧ id = qualified (some owner) name ∧
      Nested owner plugin.name := by
  rcases attributed id known with isBuiltIn | ⟨owner, name, isPlugin, isOwned⟩
  · exact absurd offered.slash_mem (slash_notMem_of_builtIn isBuiltIn)
  · obtain ⟨own, -, isOwn⟩ := offered
    rcases eq_or_nested_of_qualified_eq (isOwned.symm.trans isOwn) with rfl | nested
    · rw [absent] at isPlugin
      cases isPlugin
    · exact ⟨owner, name, isPlugin, isOwned, nested⟩

end Registry

end ScriptLint
