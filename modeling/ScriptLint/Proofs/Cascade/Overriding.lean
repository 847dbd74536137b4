import ScriptLint.Proofs.Cascade.Precedence
import ScriptLint.Proofs.Cascade.WellFormed

/-!
# Overriding

Overrides are the last layer of a cascade.  They declare no plugins, so a cascade that
resolves with them resolves without them.  The two policies are compared here: the one
with overrides has what they say on the rules and globals that they name, and all else
as it is without them, unless they bring in environments.
-/

namespace ScriptLint

/-! ## One more layer -/

namespace Layer

variable {registry : Registry} {layers : List Layer} {last : Layer}

theorem exists_resolve_of_append {policy : Policy} (noPlugins : last.plugins = ∅)
    (resolved : resolve registry (layers ++ [last]) = .ok policy) :
    ∃ plain, resolve registry layers = .ok plain := by
  rw [resolve_eq_ok_iff, mergeAll_append_singleton] at resolved
  obtain ⟨declared, finished⟩ := resolved
  obtain ⟨scope, isScope, -⟩ := finish_eq_ok_iff.mp finished
  have known := EnvironmentTable.exists_resolve_iff.mp ⟨scope, isScope⟩
  have stillKnown : ∀ id, (mergeAll layers).environments.contains id = true →
      registry.environments.contains id = true := by
    intro id listed
    exact known id (by simp [contains_environments_merge, listed])
  have samePlugins : ((mergeAll layers).merge last).plugins = (mergeAll layers).plugins := by
    simp [merge, NameSet.union, noPlugins]
  obtain ⟨plainScope, isPlainScope⟩ := EnvironmentTable.exists_resolve_iff.mpr stillKnown
  refine ⟨_, resolve_eq_ok_iff.mpr ⟨?_, finish_eq_ok_iff.mpr ⟨plainScope, isPlainScope, rfl⟩⟩⟩
  intro id bound
  rw [← samePlugins]
  exact declared id (by simp [contains_rules_merge, bound])

/-! ## The policies with and without it -/

theorem get?_globals_of_named {policy : Policy}
    (overridden : resolve registry (layers ++ [last]) = .ok policy) {name : String}
    {mode : AccessMode} (named : last.globals.get? name = some mode) :
    policy.globals.get? name = some mode := by
  obtain ⟨scope, -, rfl⟩ := exists_scope_of_resolve overridden
  rw [mergeAll_append_singleton]
  simp [policyIn, merge, named]

section Policies

variable {plain policy : Policy} (resolved : resolve registry layers = .ok plain)
  (overridden : resolve registry (layers ++ [last]) = .ok policy)

include resolved overridden

theorem get?_rules_of_bound {id : String} {setting : RuleSetting}
    (bound : last.rules.get? id = some setting) :
    policy.rules.get? id = some ⟨setting.severity,
      setting.options.getD (((plain.rules.get? id).map RuleBinding.options).getD [])⟩ := by
  obtain ⟨scope, -, rfl⟩ := exists_scope_of_resolve resolved
  obtain ⟨wider, -, rfl⟩ := exists_scope_of_resolve overridden
  simp only [mergeAll_append_singleton, policyIn, merge, Dictionary.get?_map,
    Dictionary.get?_overlay, bound]
  cases (mergeAll layers).rules.get? id <;> cases given : setting.options <;>
    simp [RuleSetting.over, given]

theorem get?_rules_of_unbound {id : String} (unbound : last.rules.get? id = none) :
    policy.rules.get? id = plain.rules.get? id := by
  rw [get?_rules_of_resolve resolved, get?_rules_of_resolve overridden]
  simp [lastGiven_append, severityOf?, optionsOf?, unbound]

theorem eq_of_no_environments (noEnvironments : last.environments = ∅)
    (noVersion : last.syntaxVersion = none) (noType : last.sourceType = none) :
    policy.environments = plain.environments ∧ policy.capabilities = plain.capabilities ∧
      ∀ name, last.globals.get? name = none →
        policy.globals.get? name = plain.globals.get? name := by
  obtain ⟨scope, isScope, rfl⟩ := exists_scope_of_resolve resolved
  obtain ⟨wider, isWider, rfl⟩ := exists_scope_of_resolve overridden
  rw [mergeAll_append_singleton] at isWider ⊢
  have sameEnvironments :
      ((mergeAll layers).merge last).environments = (mergeAll layers).environments := by
    simp [merge, NameSet.union, noEnvironments]
  rw [sameEnvironments, isScope, Except.ok.injEq] at isWider
  subst isWider
  refine ⟨sameEnvironments, ?_, ?_⟩
  · simp [policyIn, merge, noVersion, noType]
  · intro name unnamed
    simp [policyIn, merge, unnamed]

end Policies

end Layer

/-! ## Overrides -/

namespace Overrides

variable {registry : Registry} {overrides : Overrides}

/--
A resolution with overrides has what they say on all that they name; what they do not
name is as it is without them, but for what environments grant.
-/
structure Prevails (registry : Registry) (overrides : Overrides)
    (plain overridden : Resolution) : Prop where
  layers : overridden.layers =
    plain.layers ++ if overrides.isEmpty then [] else [layerName]
  known : ∀ spelling, overrides.rules.contains spelling = true →
    ∃ id, registry.Binds overrides.rules spelling id
  bound : ∀ spelling id, registry.Binds overrides.rules spelling id →
    (∀ other, registry.Binds overrides.rules other id → other = spelling) →
      ∃ value setting, overrides.rules.get? spelling = some value ∧
        RuleSetting.resolve value = .ok setting ∧
        overridden.policy.rules.get? id = some ⟨setting.severity, setting.options.getD
          (((plain.policy.rules.get? id).map RuleBinding.options).getD [])⟩
  unbound : ∀ id, (∀ spelling, ¬ registry.Binds overrides.rules spelling id) →
    overridden.policy.rules.get? id = plain.policy.rules.get? id
  named : ∀ name declaration, overrides.globals.get? name = some declaration →
    ∃ mode, declaration.access = .ok mode ∧
      overridden.policy.globals.get? name = some mode
  others : overrides.environments = [] →
    overridden.policy.environments = plain.policy.environments ∧
      overridden.policy.capabilities = plain.policy.capabilities ∧
      ∀ name, overrides.globals.get? name = Option.none →
        overridden.policy.globals.get? name = plain.policy.globals.get? name

theorem prevails_of_isEmpty (empty : overrides.isEmpty = true) (resolution : Resolution) :
    overrides.Prevails registry resolution resolution := by
  simp only [isEmpty, Bool.and_eq_true] at empty
  obtain ⟨⟨noEnvironments, noGlobals⟩, noRules⟩ := empty
  have noBinding (spelling : String) : ¬ overrides.rules.contains spelling = true := by
    simp [Dictionary.contains, Dictionary.isEmpty_iff.mp noRules spelling]
  refine ⟨?_, ?_, ?_, fun _ _ => rfl, ?_, fun _ => ⟨rfl, rfl, fun _ _ => rfl⟩⟩
  · simp [isEmpty, noEnvironments, noGlobals, noRules]
  · intro spelling binds
    exact absurd binds (noBinding spelling)
  · intro spelling id binds
    exact absurd binds.1 (noBinding spelling)
  · intro name declaration found
    simp [Dictionary.isEmpty_iff.mp noGlobals name] at found

theorem layer_of_ofDocument {own : Layer}
    (passed : Layer.ofDocument registry layerName .localOverride overrides.document = .ok own) :
    own.name = layerName ∧ own.plugins = ∅ ∧ own.syntaxVersion = Option.none ∧
      own.sourceType = Option.none ∧ (overrides.environments = [] → own.environments = ∅) := by
  obtain ⟨meaning, globals, rules, -, capable, -, -, -, rfl⟩ :=
    Layer.ofDocument_eq_ok_iff.mp passed
  cases capable
  refine ⟨rfl, rfl, rfl, rfl, ?_⟩
  intro noEnvironments
  simp [PolicyDocument.environmentIds, document, noEnvironments]
  rfl

theorem prevails_of_layer {layers : List Layer} {own : Layer} {plain policy : Policy}
    (nonempty : overrides.isEmpty = false)
    (passed : Layer.ofDocument registry layerName .localOverride overrides.document = .ok own)
    (resolved : Layer.resolve registry layers = .ok plain)
    (overridden : Layer.resolve registry (layers ++ [own]) = .ok policy) :
    overrides.Prevails registry ⟨plain, layers.map (·.name)⟩
      ⟨policy, (layers ++ [own]).map (·.name)⟩ := by
  obtain ⟨isName, -, noVersion, noType, noEnvironments⟩ := layer_of_ofDocument passed
  obtain ⟨named, unnamed⟩ := Layer.globals_of_ofDocument passed
  obtain ⟨known, bound, unbound⟩ := Layer.rules_of_ofDocument passed
  refine ⟨?_, known, ?_, ?_, ?_, ?_⟩
  · simp [nonempty, isName]
  · intro spelling id binds once
    obtain ⟨value, setting, found, meant, isSetting⟩ := bound spelling id binds once
    exact ⟨value, setting, found, meant,
      Layer.get?_rules_of_bound resolved overridden isSetting⟩
  · intro id absent
    exact Layer.get?_rules_of_unbound resolved overridden (unbound id absent)
  · intro name declaration found
    obtain ⟨mode, meant, isMode⟩ := named name declaration found
    exact ⟨mode, meant, Layer.get?_globals_of_named overridden isMode⟩
  · intro noneListed
    obtain ⟨environments, capabilities, globals⟩ :=
      Layer.eq_of_no_environments resolved overridden (noEnvironments noneListed) noVersion noType
    exact ⟨environments, capabilities, fun name absent => globals name (unnamed name absent)⟩

end Overrides

/--
What resolves with overrides resolves without them.  The overrides are the last layer,
unless they are empty; they win on the rules and globals that they name, where a rule
keeps its options if they give none, and touch nothing else, unless by environments.
-/
theorem Resolution.overrides_prevail {registry : Registry} {sources : Sources} {name : String}
    {document : PolicyDocument} {overrides : Overrides} {overridden : Resolution}
    (succeeds : resolve registry sources name document overrides = .ok overridden) :
    ∃ plain, resolve registry sources name document .none = .ok plain ∧
      overrides.Prevails registry plain overridden := by
  obtain ⟨policy, names⟩ := overridden
  obtain ⟨layers, isCascade, resolved, isNames⟩ := resolve_eq_ok_iff.mp succeeds
  obtain ⟨expanded, last, isExpanded, isLast, rfl⟩ := cascade_eq_ok_iff.mp isCascade
  have plainCascade : cascade registry sources name document .none = .ok expanded :=
    cascade_eq_ok_iff.mpr ⟨expanded, [], isExpanded, rfl, List.append_nil expanded⟩
  subst isNames
  rcases overrides_layers_ok isLast with ⟨empty, rfl⟩ | ⟨nonempty, own, passed, rfl⟩
  · rw [List.append_nil] at resolved ⊢
    exact ⟨_, resolve_eq_ok_iff.mpr ⟨expanded, plainCascade, resolved, rfl⟩,
      Overrides.prevails_of_isEmpty empty _⟩
  · obtain ⟨-, noPlugins, -⟩ := Overrides.layer_of_ofDocument passed
    obtain ⟨plain, plainResolved⟩ := Layer.exists_resolve_of_append noPlugins resolved
    exact ⟨⟨plain, _⟩, resolve_eq_ok_iff.mpr ⟨expanded, plainCascade, plainResolved, rfl⟩,
      Overrides.prevails_of_layer nonempty passed plainResolved resolved⟩

/-- A rule that the document turns off comes back under another spelling, with its options. -/
theorem Resolution.overrides_turn_rule_on :
    let registry : Registry := Registry.empty.add .none Rules.QuoteStyle.rule
    let document : PolicyDocument :=
      { PolicyDocument.empty with
        rules := (∅ : Dictionary Value).insert "quote-style"
          (.array [.string "off", .string "single"]) }
    let overrides : Overrides :=
      ⟨[], (∅ : Dictionary GlobalDeclaration).insert "app" (.flag true),
        (∅ : Dictionary Value).insert "quotes" (.string "warn")⟩
    ∃ overridden, resolve registry ∅ "local" document overrides = .ok overridden ∧
      overridden.policy.rules.get? "quote-style" = some ⟨.advisory, [.string "single"]⟩ ∧
      overridden.policy.globals.get? "app" = some .readWrite := by
  intro registry document overrides
  have expands : Expansion.Expands registry ∅ ["local"] document.references [] := .nil
  have succeeds : ∃ overridden,
      resolve registry ∅ "local" document overrides = .ok overridden := by
    rw [resolve, cascade, Layer.expand_eq, Expansion.ok_of_expands expands rfl]
    exact ⟨_, rfl⟩
  have isPlain (plain : Resolution)
      (succeeds : resolve registry ∅ "local" document .none = .ok plain) :
      plain.policy.rules.get? "quote-style" = some ⟨.off, [.string "single"]⟩ := by
    rw [resolve, cascade, Layer.expand_eq, Expansion.ok_of_expands expands rfl] at succeeds
    cases succeeds
    rfl
  obtain ⟨overridden, resolved⟩ := succeeds
  obtain ⟨plain, plainResolved, prevails⟩ := overrides_prevail resolved
  have binds : registry.Binds overrides.rules "quotes" "quote-style" := ⟨rfl, by decide⟩
  have once (other : String) (bound : registry.Binds overrides.rules other "quote-style") :
      other = "quotes" := by
    have same : "quotes" = other := by simpa [overrides, Dictionary.contains] using bound.1
    exact same.symm
  obtain ⟨value, setting, found, meant, isBinding⟩ :=
    prevails.bound "quotes" "quote-style" binds once
  obtain ⟨mode, isMode, isGlobal⟩ := prevails.named "app" (.flag true) rfl
  cases found
  cases meant
  cases isMode
  rw [isPlain plain plainResolved] at isBinding
  exact ⟨overridden, resolved, isBinding, isGlobal⟩

end ScriptLint
