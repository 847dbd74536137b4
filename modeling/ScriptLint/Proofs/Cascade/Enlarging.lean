import ScriptLint.Proofs.Cascade.Spelling
import ScriptLint.Proofs.Registry.Environments

/-!
# Resolution in a larger registry

A plugin that is registered later adds names and takes none away, so a cascade that
resolved before has the same layers afterwards.  The policy is the same as well as long as
the environments that it declares mean what they did, which can only fail where two
plugins have nested names and offer an environment under one id.
-/

namespace ScriptLint

/-! ## What a registration keeps -/

namespace Registry

/-- The second registry knows all that the first one does; environments may have changed. -/
structure Enlarges (registry next : Registry) : Prop where
  rules : ∀ name registered, registry.get? name = some registered →
    next.get? name = some registered
  withoutPlugin : next.rules.filter (·.plugin.isNone) = registry.rules.filter (·.plugin.isNone)
  plugins : ∀ plugin configs, registry.plugins.get? plugin = some configs →
    next.plugins.get? plugin = some configs
  environments : ∀ id, registry.environments.contains id = true →
    next.environments.contains id = true
  alwaysInForce : next.environments.get? EnvironmentTable.alwaysInForce =
    registry.environments.get? EnvironmentTable.alwaysInForce

variable {registry next : Registry} {plugin : Plugin}

theorem Adds.get?_environments_of_not_offers (adds : registry.Adds plugin next) {id : String}
    (other : ¬ plugin.Offers id) :
    next.environments.get? id = registry.environments.get? id := by
  rw [adds.environments, get?_addEnvironments_of_not_offers registry other]

theorem Adds.contains_environments (adds : registry.Adds plugin next) {id : String}
    (known : registry.environments.contains id = true) :
    next.environments.contains id = true := by
  by_cases offered : plugin.Offers id
  · obtain ⟨name, owned, rfl⟩ := offered
    rw [Dictionary.contains] at owned
    rw [Dictionary.contains, adds.environments, get?_addEnvironments, Option.isSome_or, owned,
      Bool.true_or]
  · rwa [Dictionary.contains, adds.get?_environments_of_not_offers offered]

theorem enlarges_of_registerPlugin (reachable : registry.Reachable)
    (registered : registry.registerPlugin plugin = .ok next) : registry.Enlarges next := by
  have adds := adds_of_registerPlugin registered
  have kept : registry.rules ⊆ next.rules := by
    rw [adds.rules]
    exact List.subset_append_left _ _
  refine ⟨?_, ?_, ?_, fun _ => adds.contains_environments, ?_⟩
  · intro name found
    exact reachable.consistent.get?_of_subset (reachable.registerPlugin registered).consistent kept
  · simp [adds.rules, RegisteredRule.of]
  · intro other configs found
    have different : plugin.name ≠ other := by
      rintro rfl
      have absent := adds.absent
      simp [Dictionary.contains, found] at absent
    rw [adds.plugins, Dictionary.get?_insert, if_neg different, found]
  · apply adds.get?_environments_of_not_offers
    intro offered
    exact absurd offered.slash_mem (by decide)

theorem Enlarges.contains_plugins (enlarges : registry.Enlarges next) {name : String}
    (known : registry.plugins.contains name = true) : next.plugins.contains name = true := by
  obtain ⟨configs, found⟩ := Option.isSome_iff_exists.mp known
  rw [Dictionary.contains, enlarges.plugins name configs found, Option.isSome_some]

end Registry

/-! ## Layers in a larger registry -/

namespace Layer

variable {registry next : Registry}

theorem checkRule_of_enlarges (enlarges : registry.Enlarges next) {name : String} {value : Value}
    {setting : String × RuleSetting} (passed : checkRule registry name value = .ok setting) :
    checkRule next name value = .ok setting := by
  obtain ⟨registered, resolved, found, isResolved, accepts, same⟩ := checkRule_eq_ok_iff.mp passed
  exact checkRule_eq_ok_iff.mpr
    ⟨registered, resolved, enlarges.rules name registered found, isResolved, accepts, same⟩

theorem checkRules_of_enlarges (enlarges : registry.Enlarges next)
    {entries : List (String × Value)} {settings : List (String × RuleSetting)}
    (passed : checkRules registry entries = .ok settings) :
    checkRules next entries = .ok settings := by
  induction entries generalizing settings with
  | nil => exact passed
  | cons entry rest ih =>
      rw [checkRules] at passed ⊢
      cases own : checkRule registry entry.1 entry.2 with
      | error fault => simp [own] at passed
      | ok setting =>
          rw [own] at passed
          rw [checkRule_of_enlarges enlarges own]
          cases others : checkRules registry rest with
          | error fault => simp [others, Except.map] at passed
          | ok following => rwa [ih others, ← others]

theorem ofDocument_of_enlarges (enlarges : registry.Enlarges next) {name : String}
    {kind : LayerKind} {document : PolicyDocument} {layer : Layer}
    (passed : ofDocument registry name kind document = .ok layer) :
    ofDocument next name kind document = .ok layer := by
  obtain ⟨meaning, globals, settings, environments, capable, plugins, declared, bound, isLayer⟩ :=
    ofDocument_eq_ok_iff.mp passed
  exact ofDocument_eq_ok_iff.mpr ⟨meaning, globals, settings,
    fun id listed => enlarges.environments id (environments id listed), capable,
    fun plugin listed => enlarges.contains_plugins (plugins plugin listed), declared,
    checkRules_of_enlarges enlarges bound, isLayer⟩

end Layer

theorem Preset.find?_of_enlarges {registry next : Registry} (enlarges : registry.Enlarges next)
    (reference : String) : find? next reference = find? registry reference := by
  have sameCatalog (name : String) (keep : Rule → Bool) :
      catalog next name keep = catalog registry name keep := by
    have chosen (rules : List RegisteredRule) :
        rules.filter (fun registered => registered.plugin.isNone && keep registered.rule) =
          (rules.filter (·.plugin.isNone)).filter fun registered => keep registered.rule := by
      rw [List.filter_filter]
      exact List.filter_congr fun _ _ => Bool.and_comm _ _
    simp only [catalog, chosen, enlarges.withoutPlugin]
  simp only [find?, sameCatalog]

theorem Target.Provides.enlarged {registry next : Registry} {sources : Sources}
    {reference : String} {plugin : Option String} {source : Source}
    (enlarges : registry.Enlarges next)
    (provided : Provides registry sources reference plugin source) :
    Provides next sources reference plugin source := by
  cases provided with
  | config whole found =>
      obtain ⟨configs, isPlugin, isConfig⟩ := Option.bind_eq_some_iff.mp found
      have kept := enlarges.plugins _ configs isPlugin
      exact .config whole (Option.bind_eq_some_iff.mpr ⟨configs, kept, isConfig⟩)
  | source other plain found => exact .source other plain found

/-! ## Scopes of tables that agree -/

namespace EnvironmentTable

variable {table other : EnvironmentTable}

theorem joinAll_congr {ids : List String} (same : ∀ id ∈ ids, other.get? id = table.get? id)
    (start : Environment) : joinAll other start ids = joinAll table start ids := by
  induction ids generalizing start with
  | nil => rfl
  | cons id rest ih =>
      obtain ⟨sameFirst, sameRest⟩ := List.forall_mem_cons.mp same
      rw [joinAll, joinAll, sameFirst]
      cases table.get? id with
      | none => rfl
      | some environment => exact ih sameRest _

theorem resolve_congr {environments : NameSet}
    (sameAlways : other.get? alwaysInForce = table.get? alwaysInForce)
    (same : ∀ id, environments.contains id = true → other.get? id = table.get? id) :
    other.resolve environments = table.resolve environments := by
  rw [resolve, resolve, sameAlways]
  exact joinAll_congr (fun id listed => same id (Dictionary.mem_keys_iff.mp listed)) _

end EnvironmentTable

/-! ## Resolution in a larger registry -/

namespace Resolution

variable {registry next : Registry} {sources : Sources} {name : String}
  {document : PolicyDocument} {overrides : Overrides}

theorem imitates_of_enlarges (enlarges : registry.Enlarges next) :
    Expansion.Imitates (fun _ => True) registry next sources sources where
  presets := Preset.find?_of_enlarges enlarges
  documents := by
    intro reference plugin source extended _ provided parsed
    exact ⟨fun _ _ => trivial, source, extended, provided.enlarged enlarges, parsed, rfl,
      fun _ passed => Layer.ofDocument_of_enlarges enlarges passed⟩

theorem expand_of_enlarges (enlarges : registry.Enlarges next) {layers : List Layer}
    (expanded : Layer.expand registry sources name document = .ok layers) :
    Layer.expand next sources name document = .ok layers := by
  obtain ⟨inherited, own, isInherited, passed, rfl⟩ := Expansion.expand_eq_ok_iff.mp expanded
  have expands := (Expansion.expands_of_ok isInherited).imitated (imitates_of_enlarges enlarges)
    fun _ _ => trivial
  exact Expansion.expand_eq_ok_iff.mpr ⟨inherited, own, Expansion.ok_of_expands expands rfl,
    Layer.ofDocument_of_enlarges enlarges passed, rfl⟩

theorem layers_of_enlarges (enlarges : registry.Enlarges next) {layers : List Layer}
    (passed : overrides.layers registry = .ok layers) : overrides.layers next = .ok layers := by
  rw [Overrides.layers]
  rcases overrides_layers_ok passed with ⟨empty, rfl⟩ | ⟨nonempty, own, isOwn, rfl⟩
  · rw [if_pos empty]
  · rw [nonempty, if_neg Bool.false_ne_true, Layer.ofDocument_of_enlarges enlarges isOwn]

theorem cascade_of_enlarges (enlarges : registry.Enlarges next) {layers : List Layer}
    (succeeds : cascade registry sources name document overrides = .ok layers) :
    cascade next sources name document overrides = .ok layers := by
  obtain ⟨expanded, last, isExpanded, isLast, rfl⟩ := cascade_eq_ok_iff.mp succeeds
  exact cascade_eq_ok_iff.mpr ⟨expanded, last, expand_of_enlarges enlarges isExpanded,
    layers_of_enlarges enlarges isLast, rfl⟩

theorem isDeclared_of_enlarges (enlarges : registry.Enlarges next) {declared : List String}
    {name : String} {registered : RegisteredRule} (found : registry.get? name = some registered) :
    Layer.isDeclared next declared name = Layer.isDeclared registry declared name := by
  rw [Layer.isDeclared, Layer.isDeclared, found, enlarges.rules name registered found]

theorem resolve_of_enlarges (reachable : registry.Reachable) (enlarges : registry.Enlarges next)
    {resolution : Resolution}
    (resolved : resolve registry sources name document overrides = .ok resolution)
    (same : ∀ id, resolution.policy.environments.contains id = true →
      next.environments.get? id = registry.environments.get? id) :
    resolve next sources name document overrides = .ok resolution := by
  obtain ⟨layers, isCascade, isPolicy, names⟩ := resolve_eq_ok_iff.mp resolved
  refine resolve_eq_ok_iff.mpr ⟨layers, cascade_of_enlarges enlarges isCascade, ?_, names⟩
  obtain ⟨declared, finished⟩ := Layer.resolve_eq_ok_iff.mp isPolicy
  refine Layer.resolve_eq_ok_iff.mpr ⟨?_, ?_⟩
  · -- A rule that is bound was registered before, so it belongs to the plugin that it did.
    intro id bound
    have wellFormed := Layer.WellFormed.mergeAll reachable.placed fun layer member =>
      (isSound_of_cascade isCascade layer member).wellFormed
    obtain ⟨setting, isSetting⟩ := Option.isSome_iff_exists.mp bound
    obtain ⟨registered, member, rfl, -⟩ := wellFormed.bound id setting isSetting
    rw [isDeclared_of_enlarges enlarges (reachable.placed.canonicalId?_id member).2]
    exact declared _ bound
  · obtain ⟨scope, isScope, isResult⟩ := Layer.finish_eq_ok_iff.mp finished
    rw [← isResult] at same
    exact Layer.finish_eq_ok_iff.mpr ⟨scope,
      (EnvironmentTable.resolve_congr enlarges.alwaysInForce same).trans isScope, isResult⟩

end Resolution

/-! ## Resolution after a registration -/

namespace Registry

variable {registry next : Registry} {plugin : Plugin}

/-- An id at which the new plugin offers an environment and which a registered plugin can own. -/
structure IsReplaced (registry : Registry) (plugin : Plugin) (id : String) : Prop where
  offered : plugin.Offers id
  owned : ∃ owner name, registry.plugins.contains owner = true ∧
    id = qualified (some owner) name ∧ Nested owner plugin.name

theorem get?_environments_of_not_isReplaced (reachable : registry.Reachable)
    (registered : registry.registerPlugin plugin = .ok next) {id : String}
    (known : registry.environments.contains id = true)
    (kept : ¬ registry.IsReplaced plugin id) :
    next.environments.get? id = registry.environments.get? id := by
  have adds := adds_of_registerPlugin registered
  apply adds.get?_environments_of_not_offers
  intro offered
  exact kept ⟨offered, reachable.attributed.nested_of_offers adds.absent known offered⟩

theorem resolve_of_not_isReplaced (reachable : registry.Reachable)
    (registered : registry.registerPlugin plugin = .ok next) {sources : Sources} {name : String}
    {document : PolicyDocument} {overrides : Overrides} {resolution : Resolution}
    (resolved : Resolution.resolve registry sources name document overrides = .ok resolution)
    (kept : ∀ id, resolution.policy.environments.contains id = true →
      ¬ registry.IsReplaced plugin id) :
    Resolution.resolve next sources name document overrides = .ok resolution := by
  have wellFormed := Resolution.wellFormed_of_resolve reachable resolved
  apply Resolution.resolve_of_enlarges reachable
    (enlarges_of_registerPlugin reachable registered) resolved
  intro id declared
  exact get?_environments_of_not_isReplaced reachable registered (wellFormed.known id declared)
    (kept id declared)

/--
As long as the name of no registered plugin is nested with that of the new one, a registration
leaves all environments as they are, and every policy that resolved before comes to the same.
With nested names it replaces environments only at ids that both plugins can own, and every
policy that declares none of these still comes to the same.
-/
theorem registerPlugin_keeps_environments (reachable : registry.Reachable)
    (registered : registry.registerPlugin plugin = .ok next) :
    ((∀ owner, registry.plugins.contains owner = true → ¬ Nested owner plugin.name) →
      (∀ id environment, registry.environments.get? id = some environment →
        next.environments.get? id = some environment) ∧
      ∀ sources name document overrides resolution,
        Resolution.resolve registry sources name document overrides = .ok resolution →
          Resolution.resolve next sources name document overrides = .ok resolution) ∧
    (∀ id environment, registry.environments.get? id = some environment →
      ¬ registry.IsReplaced plugin id → next.environments.get? id = some environment) ∧
    (∀ name environment, plugin.environments.get? name = some environment →
      next.environments.get? (qualified (some plugin.name) name) = some environment) ∧
    ∀ sources name document overrides resolution,
      Resolution.resolve registry sources name document overrides = .ok resolution →
      (∀ id, resolution.policy.environments.contains id = true →
        ¬ registry.IsReplaced plugin id) →
      Resolution.resolve next sources name document overrides = .ok resolution := by
  have environments (id : String) (environment : Environment)
      (found : registry.environments.get? id = some environment)
      (kept : ¬ registry.IsReplaced plugin id) :
      next.environments.get? id = some environment := by
    have known : registry.environments.contains id = true := by
      rw [Dictionary.contains, found, Option.isSome_some]
    rw [get?_environments_of_not_isReplaced reachable registered known kept, found]
  refine ⟨?_, environments, ?_, ?_⟩
  · intro apart
    have kept (id : String) : ¬ registry.IsReplaced plugin id := by
      rintro ⟨-, owner, -, isPlugin, -, nested⟩
      exact apart owner isPlugin nested
    refine ⟨fun id environment found => environments id environment found (kept id), ?_⟩
    intro sources name document overrides resolution resolved
    exact resolve_of_not_isReplaced reachable registered resolved fun id _ => kept id
  · intro name environment own
    rw [(adds_of_registerPlugin registered).environments, get?_addEnvironments, own, Option.some_or]
  · intro sources name document overrides resolution resolved kept
    exact resolve_of_not_isReplaced reachable registered resolved kept

/-! ## Two plugins with nested names -/

def hostPlugin (name environment : String) (mode : AccessMode) (sourceType : Option SourceType) :
    Plugin :=
  ⟨name, [], ∅, (∅ : Dictionary Environment).insert environment
    ⟨(∅ : Globals).insert "host" mode, none, sourceType⟩⟩

def acme : Plugin := hostPlugin "acme" "web/strict" .readOnly none

def acmeRegistry : Registry := (Registration.ofPlugin acme).outcome .empty

theorem reachable_acmeRegistry : acmeRegistry.Reachable :=
  .registerPlugin .empty (show Registry.empty.registerPlugin acme = .ok acmeRegistry from rfl)

def declaringStrict : PolicyDocument :=
  { PolicyDocument.empty with environments := some (.list ["acme/web/strict"]) }

def strictLayer : Layer :=
  { Layer.empty "root" .localOverride with environments := .ofNames ["acme/web/strict"] }

theorem resolve_declaringStrict {registry : Registry} {environment : Environment}
    (found : registry.environments.get? "acme/web/strict" = some environment)
    (alone : registry.environments.get? EnvironmentTable.alwaysInForce = none) :
    Resolution.resolve registry ∅ "root" declaringStrict .none =
      .ok ⟨strictLayer.policyIn (Environment.empty.join environment), ["root"]⟩ := by
  have known : ∀ id ∈ declaringStrict.environmentIds, registry.environments.contains id = true := by
    intro id listed
    rw [List.mem_singleton.mp listed, Dictionary.contains, found, Option.isSome_some]
  have passed : Layer.ofDocument registry "root" .localOverride declaringStrict =
      .ok strictLayer :=
    Layer.ofDocument_eq_ok_iff.mpr ⟨(none, none), [], [], known, rfl,
      List.forall_mem_nil _, rfl, rfl, rfl⟩
  have extendsNothing : declaringStrict.references = [] := rfl
  have cascaded : Resolution.cascade registry ∅ "root" declaringStrict .none =
      .ok [strictLayer] := by
    rw [Resolution.cascade, Layer.expand_eq, extendsNothing, Expansion.ofReferences, passed]
    rfl
  have scope : registry.environments.resolve strictLayer.environments =
      .ok (Environment.empty.join environment) := by
    have listed : strictLayer.environments.keys = ["acme/web/strict"] := rfl
    rw [EnvironmentTable.resolve, alone, listed, EnvironmentTable.joinAll, found]
    rfl
  have isPolicy : Layer.resolve registry [strictLayer] =
      .ok (strictLayer.policyIn (Environment.empty.join environment)) := by
    refine Layer.resolve_eq_ok_iff.mpr ⟨fun _ bound => absurd bound Bool.false_ne_true, ?_⟩
    exact Layer.finish_eq_ok_iff.mpr ⟨_, scope, rfl⟩
  exact Resolution.resolve_eq_ok_iff.mpr ⟨[strictLayer], cascaded, isPolicy, rfl⟩

theorem registerPlugin_beside_acme :
    let house := hostPlugin "house" "web/strict" .readWrite (some .module)
    ∃ next resolution, acmeRegistry.Reachable ∧ acmeRegistry.registerPlugin house = .ok next ∧
      (∀ owner, acmeRegistry.plugins.contains owner = true → ¬ Nested owner house.name) ∧
      acmeRegistry.environments.get? "acme/web/strict" = acme.environments.get? "web/strict" ∧
      next.environments.get? "acme/web/strict" = acme.environments.get? "web/strict" ∧
      Resolution.resolve acmeRegistry ∅ "root" declaringStrict .none = .ok resolution ∧
      Resolution.resolve next ∅ "root" declaringStrict .none = .ok resolution := by
  intro house
  have registered : acmeRegistry.registerPlugin house =
      .ok ((Registration.ofPlugin house).outcome acmeRegistry) := rfl
  have apart : ∀ owner, acmeRegistry.plugins.contains owner = true →
      ¬ Nested owner house.name := by
    intro owner isPlugin
    have listed : owner ∈ ["acme"] := Dictionary.mem_keys_iff.mpr isPlugin
    rw [List.mem_singleton.mp listed]
    decide
  have isResolution := @resolve_declaringStrict acmeRegistry _ rfl rfl
  obtain ⟨environments, policies⟩ :=
    (registerPlugin_keeps_environments reachable_acmeRegistry registered).1 apart
  exact ⟨_, _, reachable_acmeRegistry, registered, apart, rfl,
    environments "acme/web/strict" _ rfl, isResolution, policies _ _ _ _ _ isResolution⟩

/--
A plugin whose name begins with that of another one and a slash replaces an environment of it,
and a policy that declares this environment comes to another one.
-/
theorem registration_replaces_environment :
    let web := hostPlugin "acme/web" "strict" .readWrite (some .module)
    let next := (Registration.ofPlugin web).outcome acmeRegistry
    acmeRegistry.Reachable ∧ acmeRegistry.registerPlugin web = .ok next ∧
      acmeRegistry.environments.get? "acme/web/strict" =
        some ⟨(∅ : Globals).insert "host" .readOnly, none, none⟩ ∧
      next.environments.get? "acme/web/strict" =
        some ⟨(∅ : Globals).insert "host" .readWrite, none, some .module⟩ ∧
      (∃ before, Resolution.resolve acmeRegistry ∅ "root" declaringStrict .none = .ok before ∧
        before.policy.globals.get? "host" = some .readOnly ∧
        before.policy.capabilities.sourceType = .script) ∧
      ∃ after, Resolution.resolve next ∅ "root" declaringStrict .none = .ok after ∧
        after.policy.globals.get? "host" = some .readWrite ∧
        after.policy.capabilities.sourceType = .module := by
  intro web next
  have registered : acmeRegistry.registerPlugin web = .ok next := rfl
  have replaced : next.environments.get? "acme/web/strict" = web.environments.get? "strict" :=
    get?_addEnvironments acmeRegistry web "strict"
  have alone : next.environments.get? EnvironmentTable.alwaysInForce = none :=
    (enlarges_of_registerPlugin reachable_acmeRegistry registered).alwaysInForce
  exact ⟨reachable_acmeRegistry, registered, rfl, replaced,
    ⟨_, resolve_declaringStrict rfl rfl, rfl, rfl⟩,
    _, resolve_declaringStrict replaced alone, rfl, rfl⟩

end Registry

end ScriptLint
