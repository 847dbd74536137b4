import ScriptLint.Explanation
import ScriptLint.Pattern.Parser
import ScriptLint.Proofs.Registry.History

/-!
# The names that explain a rule

An explanation shows the aliases of a rule as the rule itself spells them.  The registry
knows a rule of a plugin only by names inside the namespace of the plugin, so the rule is
explained under its id and under each alias that is put there.  The alias as it is
shown leads to the rule if no plugin owns the rule; otherwise it may lead nowhere, or to
another rule.
-/

namespace ScriptLint

namespace Registry

theorem explain_eq_found_iff {registry : Registry} (consistent : registry.Consistent)
    {name : String} {rule : RuleExplanation} :
    registry.explain name = .found rule ↔
      ∃ registered ∈ registry.rules, name ∈ registered.names ∧ .ofRegistered registered = rule := by
  constructor
  · intro explained
    rw [explain] at explained
    split at explained
    · rename_i registered found
      obtain ⟨member, isName⟩ := consistent.get?_eq_some_iff.mp found
      exact ⟨registered, member, isName, Explanation.found.inj explained⟩
    · cases explained
  · rintro ⟨registered, member, isName, rfl⟩
    rw [explain, consistent.get?_eq_some_iff.mpr ⟨member, isName⟩]

theorem eq_of_ofRegistered_eq {registry : Registry} (consistent : registry.Consistent)
    {first second : RegisteredRule} (inFirst : first ∈ registry.rules)
    (inSecond : second ∈ registry.rules)
    (same : RuleExplanation.ofRegistered first = .ofRegistered second) : first = second := by
  have sameId : first.id = second.id := congrArg RuleExplanation.id same
  have found := (consistent.placed.canonicalId?_id inFirst).2
  rw [sameId, (consistent.placed.canonicalId?_id inSecond).2] at found
  exact (Option.some.inj found).symm

/--
A rule that is explained under some name is explained under its id and under each of the
aliases shown, inside the namespace of its plugin if it has one, and under no other name.
-/
theorem explain_answers_to_qualified_names {registry : Registry}
    (reachable : registry.Reachable) {name : String} {rule : RuleExplanation}
    (explained : registry.explain name = .found rule) :
    registry.explain rule.id = .found rule ∧
      (∀ spelling ∈ rule.aliases,
        registry.explain (qualified rule.plugin spelling) = .found rule) ∧
      (rule.plugin = none → ∀ spelling ∈ rule.aliases,
        registry.explain spelling = .found rule) ∧
      ∀ other, registry.explain other = .found rule →
        other = rule.id ∨ ∃ spelling ∈ rule.aliases, other = qualified rule.plugin spelling := by
  have consistent := reachable.consistent
  obtain ⟨registered, member, -, rfl⟩ := (explain_eq_found_iff consistent).mp explained
  have answers : ∀ other ∈ registered.names,
      registry.explain other = .found (.ofRegistered registered) :=
    fun other isName => (explain_eq_found_iff consistent).mpr ⟨registered, member, isName, rfl⟩
  have ofSpelling : ∀ spelling ∈ registered.rule.aliases,
      registry.explain (qualified registered.plugin spelling) =
        .found (.ofRegistered registered) :=
    fun spelling shown => answers _ (List.mem_cons_of_mem _ (List.mem_map_of_mem shown))
  refine ⟨answers _ List.mem_cons_self, ofSpelling, ?_, ?_⟩
  · intro unowned spelling shown
    have found := ofSpelling spelling shown
    rwa [show registered.plugin = none from unowned] at found
  · intro other found
    obtain ⟨owner, inRules, isName, same⟩ := (explain_eq_found_iff consistent).mp found
    obtain rfl := eq_of_ofRegistered_eq consistent inRules member same
    rcases List.mem_cons.mp isName with isId | isAlias
    · exact .inl isId
    · obtain ⟨spelling, shown, rfl⟩ := List.mem_map.mp isAlias
      exact .inr ⟨spelling, shown, rfl⟩

/-! ## A rule of a plugin -/

/-- A rule with two aliases, the second of which a built-in rule has too. -/
def labelsRule : Rule where
  name := "no-labels"
  description := "Disallow labels"
  recommended := false
  aliases := ["labels", "semi"]
  interests := []
  validate options := RuleOptions.atMost options 0
  State := Unit
  create options := Rule.created (RuleOptions.atMost options 0) id
  enter state _ _ := .quiet state
  exit state _ _ := .quiet state
  finish state _ := .quiet state

def labelsPlugin : Plugin := ⟨"house", [labelsRule], ∅, ∅⟩

def labelsExplanation : RuleExplanation :=
  ⟨"house/no-labels", "Disallow labels", false, some "house", ["labels", "semi"]⟩

/-- Inside the namespace of the plugin both aliases lead to the rule. -/
theorem explain_labels_inside_namespace :
    ∃ registry, (builtIn .standard).registerPlugin labelsPlugin = .ok registry ∧
      registry.Reachable ∧
      registry.explain "house/semi" = .found labelsExplanation ∧
      registry.explain labelsExplanation.id = .found labelsExplanation ∧
      registry.explain "house/labels" = .found labelsExplanation := by
  have reachable : Reachable _ :=
    .registerPlugin .builtIn (show (builtIn .standard).registerPlugin labelsPlugin = _ from rfl)
  obtain ⟨byId, byAlias, -, -⟩ := explain_answers_to_qualified_names reachable
    (show explain _ "house/labels" = .found labelsExplanation from rfl)
  exact ⟨_, rfl, reachable, byAlias "semi" (by decide), byId, byAlias "labels" (by decide)⟩

/-- Of the two aliases that are shown, one is unknown and the other stands for another rule. -/
theorem explain_shows_aliases_that_fail :
    ∃ registry, (builtIn .standard).registerPlugin labelsPlugin = .ok registry ∧
      registry.Reachable ∧
      registry.explain "house/no-labels" = .found labelsExplanation ∧
      registry.explain "labels" = .notFound "labels" (registry.rules.map (·.id)) ∧
      registry.explain "semi" = (builtIn .standard).explain "statement-terminator" ∧
      ¬ ∀ spelling ∈ labelsExplanation.aliases,
        registry.explain spelling = .found labelsExplanation := by
  have registered : (builtIn .standard).registerPlugin labelsPlugin = _ := rfl
  refine ⟨_, registered, .registerPlugin .builtIn registered, rfl, rfl, rfl, fun found => ?_⟩
  have unknown := found "labels" List.mem_cons_self
  cases unknown

end Registry

end ScriptLint
