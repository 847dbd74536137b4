import ScriptLint.Cascade.Resolution
import ScriptLint.Proofs.Cascade.Expansion
import ScriptLint.Proofs.Cascade.Grouping
import ScriptLint.Proofs.Registry.Lookup

/-!
# Well-formed policies

Documents are checked one by one, while a policy mixes parts of many layers: options
travel from one layer under the severity of another.  What a check establishes is
therefore stated of single settings and names, so that every merge keeps it.  A policy
that comes out of a resolution binds rules by their ids, with options that they accept,
and names known environments and rules of declared plugins only; and a fault in any
document of the cascade makes the resolution fail, whatever comes after it.
-/

namespace ScriptLint

/-! ## Layers -/

/-- What is bound is a rule by its id, with options that it accepts, and environments are known. -/
structure Layer.WellFormed (registry : Registry) (layer : Layer) : Prop where
  bound : ∀ id setting, layer.rules.get? id = some setting →
    ∃ registered ∈ registry.rules, registered.id = id ∧
      ∀ options, setting.options = some options → registered.rule.validate options = .ok ()
  known : ∀ id, layer.environments.contains id = true →
    registry.environments.contains id = true

namespace Layer

variable {registry : Registry}

theorem wellFormed_neutral (registry : Registry) : neutral.WellFormed registry where
  bound _ _ found := by cases found
  known _ listed := by cases listed

theorem WellFormed.declaring {layer : Layer} (wellFormed : layer.WellFormed registry)
    (plugin : Option String) : (layer.declaring plugin).WellFormed registry := by
  cases plugin <;> exact ⟨wellFormed.bound, wellFormed.known⟩

theorem eq_of_id_eq (placed : registry.Placed) {first second : RegisteredRule}
    (isFirst : first ∈ registry.rules) (isSecond : second ∈ registry.rules)
    (same : first.id = second.id) : first = second := by
  have found := (placed.canonicalId?_id isFirst).2
  rw [same, (placed.canonicalId?_id isSecond).2] at found
  exact (Option.some.inj found).symm

theorem WellFormed.merge (placed : registry.Placed) {earlier later : Layer}
    (isEarlier : earlier.WellFormed registry) (isLater : later.WellFormed registry) :
    (earlier.merge later).WellFormed registry where
  bound id setting found := by
    simp only [Layer.merge, Dictionary.get?_overlay] at found
    cases above : later.rules.get? id with
    | none =>
        rw [above] at found
        exact isEarlier.bound id setting found
    | some upper =>
        simp only [above, Option.map_some, Option.some_or, Option.some.injEq] at found
        subst found
        obtain ⟨registered, member, isId, accepts⟩ := isLater.bound id upper above
        refine ⟨registered, member, isId, ?_⟩
        intro options given
        cases own : upper.options with
        | some _ =>
            simp only [RuleSetting.over, own, Option.some_or] at given
            exact accepts options (own.trans given)
        | none =>
            simp only [RuleSetting.over, own, Option.none_or, Option.bind_eq_some_iff] at given
            obtain ⟨lower, below, lowerGiven⟩ := given
            obtain ⟨other, isOther, otherId, otherAccepts⟩ := isEarlier.bound id lower below
            rw [eq_of_id_eq placed member isOther (isId.trans otherId.symm)]
            exact otherAccepts options lowerGiven
  known id listed := by
    simp only [Layer.merge, NameSet.union, Dictionary.contains_overlay, Bool.or_eq_true] at listed
    rcases listed with inEarlier | inLater
    · exact isEarlier.known id inEarlier
    · exact isLater.known id inLater

theorem WellFormed.mergeAll (placed : registry.Placed) {layers : List Layer}
    (wellFormed : ∀ layer ∈ layers, layer.WellFormed registry) :
    (mergeAll layers).WellFormed registry := by
  have folded (start : Layer) (isStart : start.WellFormed registry) :
      (layers.foldl Layer.merge start).WellFormed registry := by
    induction layers generalizing start with
    | nil => exact isStart
    | cons first rest ih =>
        exact ih (fun layer member => wellFormed layer (List.mem_cons_of_mem first member)) _
          (isStart.merge placed (wellFormed first List.mem_cons_self))
  exact folded neutral (wellFormed_neutral registry)

theorem wellFormed_catalog (name : String) (keep : Rule → Bool) :
    (Preset.catalog registry name keep).WellFormed registry where
  bound id setting found := by
    obtain ⟨registered, chosen, same⟩ := List.mem_map.mp (Dictionary.mem_of_get?_ofList found)
    cases same
    exact ⟨registered, (List.mem_filter.mp chosen).1, rfl, fun options given => by cases given⟩
  known _ listed := by cases listed

theorem wellFormed_ofDocument {name : String} {kind : LayerKind} {document : PolicyDocument}
    {layer : Layer} (passed : ofDocument registry name kind document = .ok layer) :
    layer.WellFormed registry := by
  obtain ⟨meaning, globals, rules, environments, -, -, -, checked, rfl⟩ :=
    ofDocument_eq_ok_iff.mp passed
  constructor
  · intro id setting found
    obtain ⟨entry, -, own⟩ := (checkRules_ok checked).2 _ (Dictionary.mem_of_get?_ofList found)
    obtain ⟨registered, resolved, isFound, -, accepts, same⟩ := checkRule_eq_ok_iff.mp own
    cases same
    exact ⟨registered, Registry.mem_rules_of_get? isFound, rfl, accepts⟩
  · intro id listed
    exact environments id ((NameSet.contains_ofNames _ id).mp listed)

theorem bound_of_ofDocument {name : String} {kind : LayerKind} {document : PolicyDocument}
    {layer : Layer} (passed : ofDocument registry name kind document = .ok layer)
    {spelling : String} {value : Value} (binds : document.rules.get? spelling = some value) :
    ∃ registered setting, registry.get? spelling = some registered ∧
      RuleSetting.resolve value = .ok setting ∧
      (∀ options, setting.options = some options →
        registered.rule.validate options = .ok ()) ∧
      layer.rules.contains registered.id = true := by
  obtain ⟨meaning, globals, rules, -, -, -, -, checked, rfl⟩ := ofDocument_eq_ok_iff.mp passed
  obtain ⟨result, member, own⟩ := (checkRules_ok checked).1 _ (Dictionary.mem_of_get? binds)
  obtain ⟨registered, setting, found, resolved, accepts, rfl⟩ := checkRule_eq_ok_iff.mp own
  exact ⟨registered, setting, found, resolved, accepts, Dictionary.contains_ofList_of_mem member⟩

theorem contains_plugins_of_ofDocument {name : String} {kind : LayerKind}
    {document : PolicyDocument} {layer : Layer}
    (passed : ofDocument registry name kind document = .ok layer) (plugin : String) :
    layer.plugins.contains plugin = true ↔ plugin ∈ document.plugins := by
  obtain ⟨meaning, globals, rules, -, -, -, -, -, rfl⟩ := ofDocument_eq_ok_iff.mp passed
  exact NameSet.contains_ofNames document.plugins plugin

theorem contains_plugins_declaring (layer : Layer) (owner : Option String) (plugin : String) :
    (layer.declaring owner).plugins.contains plugin = true ↔
      owner = some plugin ∨ layer.plugins.contains plugin = true := by
  cases owner <;> simp [declaring, NameSet.add]

@[simp] theorem rules_declaring (layer : Layer) (owner : Option String) :
    (layer.declaring owner).rules = layer.rules := by
  cases owner <;> rfl

end Layer

namespace Resolution

variable {registry : Registry} {sources : Sources} {name : String} {document : PolicyDocument}
  {overrides : Overrides}

/-! ## The documents of a cascade -/

/-- A document on a path from the root, or what the caller lays over all of them. -/
inductive InCascade (registry : Registry) (sources : Sources) (name : String)
    (document : PolicyDocument) (overrides : Overrides) : PolicyDocument → Prop
  | reached {names : List String} {current : PolicyDocument}
      (path : Expansion.Path registry sources name document names current) :
      InCascade registry sources name document overrides current
  | overrides : InCascade registry sources name document overrides overrides.document

/-- A document on a path lists the plugin or extends one of its configurations. -/
def Declares (registry : Registry) (sources : Sources) (name : String)
    (document : PolicyDocument) (plugin : String) : Prop :=
  ∃ names current, Expansion.Path registry sources name document names current ∧
    (plugin ∈ current.plugins ∨ ∃ reference ∈ current.references, ∃ source,
      Target.Provides registry sources reference (some plugin) source)

structure IsSound (registry : Registry) (sources : Sources) (name : String)
    (document : PolicyDocument) (layer : Layer) : Prop where
  wellFormed : layer.WellFormed registry
  declared : ∀ plugin, layer.plugins.contains plugin = true →
    Declares registry sources name document plugin

theorem isSound_of_expands {names references : List String} {layers : List Layer}
    {current : PolicyDocument}
    (path : Expansion.Path registry sources name document names current)
    (listed : references ⊆ current.references)
    (expands : Expansion.Expands registry sources names references layers) :
    ∀ layer ∈ layers, IsSound registry sources name document layer := by
  induction expands generalizing current with
  | nil => simp
  | preset found _ ih =>
      intro layer member
      rcases List.mem_cons.mp member with rfl | inRest
      · obtain ⟨preset, keep, rfl⟩ := Preset.eq_catalog_of_find? found
        exact ⟨Layer.wellFormed_catalog preset keep, fun plugin declares => by cases declares⟩
      · exact ih path (List.subset_of_cons_subset listed) layer inRest
  | @document names rest reference owner source extended inherited following own provided parsed
      fresh below passed _ ihBelow ihRest =>
      have isListed : reference ∈ current.references := listed List.mem_cons_self
      have extendedPath := path.extend isListed provided parsed
      intro layer member
      rcases List.mem_append.mp member with isInherited | member
      · exact ihBelow extendedPath (List.Subset.refl _) layer isInherited
      · rcases List.mem_cons.mp member with rfl | inRest
        · refine ⟨(Layer.wellFormed_ofDocument passed).declaring owner, ?_⟩
          intro plugin declares
          rcases (own.contains_plugins_declaring owner plugin).mp declares with rfl | isOwn
          · exact ⟨names, current, path, .inr ⟨reference, isListed, source, provided⟩⟩
          · have inDocument := (Layer.contains_plugins_of_ofDocument passed plugin).mp isOwn
            exact ⟨reference :: names, extended, extendedPath, .inl inDocument⟩
        · exact ihRest path (List.subset_of_cons_subset listed) layer inRest

/-! ## The layers of a cascade -/

theorem cascade_eq_ok_iff {layers : List Layer} :
    cascade registry sources name document overrides = .ok layers ↔
      ∃ expanded last, Layer.expand registry sources name document = .ok expanded ∧
        overrides.layers registry = .ok last ∧ expanded ++ last = layers := by
  unfold cascade
  cases Layer.expand registry sources name document with
  | error error => simp
  | ok expanded => cases overrides.layers registry <;> simp

theorem overrides_layers_ok {last : List Layer} (passed : overrides.layers registry = .ok last) :
    (overrides.isEmpty = true ∧ last = []) ∨ (overrides.isEmpty = false ∧
      ∃ own, Layer.ofDocument registry Overrides.layerName .localOverride overrides.document =
        .ok own ∧ last = [own]) := by
  unfold Overrides.layers at passed
  split at passed
  · rename_i empty
    cases passed
    exact .inl ⟨empty, rfl⟩
  · rename_i nonempty
    split at passed
    · cases passed
    · rename_i own isOwn
      cases passed
      exact .inr ⟨Bool.eq_false_iff.mpr nonempty, own, isOwn, rfl⟩

theorem isSound_of_cascade {layers : List Layer}
    (succeeds : cascade registry sources name document overrides = .ok layers) :
    ∀ layer ∈ layers, IsSound registry sources name document layer := by
  obtain ⟨expanded, last, isExpanded, isLast, rfl⟩ := cascade_eq_ok_iff.mp succeeds
  obtain ⟨inherited, own, isInherited, passed, rfl⟩ := Expansion.expand_eq_ok_iff.mp isExpanded
  have ownPath : Expansion.Path registry sources name document [name] document := .root
  have sound := isSound_of_expands ownPath (List.Subset.refl _)
    (Expansion.expands_of_ok isInherited)
  intro layer member
  simp only [List.append_assoc, List.mem_append, List.mem_singleton] at member
  rcases member with isBelow | rfl | isOver
  · exact sound layer isBelow
  · refine ⟨Layer.wellFormed_ofDocument passed, ?_⟩
    intro plugin declares
    exact ⟨[name], document, ownPath,
      .inl ((Layer.contains_plugins_of_ofDocument passed plugin).mp declares)⟩
  · rcases overrides_layers_ok isLast with ⟨-, rfl⟩ | ⟨-, overriding, overPassed, rfl⟩
    · cases isOver
    · cases List.mem_singleton.mp isOver
      refine ⟨Layer.wellFormed_ofDocument overPassed, ?_⟩
      intro plugin declares
      cases (Layer.contains_plugins_of_ofDocument overPassed plugin).mp declares

theorem checked_of_inCascade {layers : List Layer} {part : PolicyDocument}
    (succeeds : cascade registry sources name document overrides = .ok layers)
    (isPart : InCascade registry sources name document overrides part) :
    (part.environmentIds = [] ∧ part.rules.isEmpty = true) ∨
      ∃ ownName kind own plugin, Layer.ofDocument registry ownName kind part = .ok own ∧
        own.declaring plugin ∈ layers := by
  obtain ⟨expanded, last, isExpanded, isLast, rfl⟩ := cascade_eq_ok_iff.mp succeeds
  cases isPart with
  | reached path =>
      obtain ⟨-, ownName, kind, own, plugin, _, _, _, -, passed, -, rfl⟩ :=
        path.expanded isExpanded
      exact .inr ⟨ownName, kind, own, plugin, passed, by simp⟩
  | overrides =>
      rcases overrides_layers_ok isLast with ⟨empty, rfl⟩ | ⟨-, overriding, passed, rfl⟩
      · simp only [Overrides.isEmpty, Bool.and_eq_true] at empty
        refine .inl ⟨?_, empty.2⟩
        simp [PolicyDocument.environmentIds, Overrides.document, empty.1.1]
      · exact .inr ⟨_, _, overriding, none, passed, by simp [Layer.declaring]⟩

/-! ## Rules of plugins -/

theorem declares_of_bound {layers : List Layer} {policy : Policy}
    (succeeds : cascade registry sources name document overrides = .ok layers)
    (resolved : Layer.resolve registry layers = .ok policy) {id plugin : String}
    {registered : RegisteredRule} (bound : (Layer.mergeAll layers).rules.contains id = true)
    (found : registry.get? id = some registered) (owned : registered.plugin = some plugin) :
    Declares registry sources name document plugin := by
  have isDeclared := (Layer.resolve_eq_ok_iff.mp resolved).1 id bound
  simp only [Layer.isDeclared, found, Option.bind_some, owned, List.contains_iff_mem,
    Dictionary.mem_keys_iff, Layer.contains_plugins_mergeAll, List.any_eq_true] at isDeclared
  obtain ⟨layer, member, declares⟩ := isDeclared
  exact (isSound_of_cascade succeeds layer member).declared plugin declares

end Resolution

/-! ## Policies -/

/--
Rules are bound by their ids, options are accepted by the rule they are for unless there
are none, and environments are known.
-/
structure Policy.WellFormed (registry : Registry) (policy : Policy) : Prop where
  canonical : ∀ id binding, policy.rules.get? id = some binding →
    registry.canonicalId? id = some id
  accepted : ∀ id binding, policy.rules.get? id = some binding →
    ∃ registered, registry.get? id = some registered ∧ registered.id = id ∧
      (binding.options = [] ∨ registered.rule.validate binding.options = .ok ())
  known : ∀ id, policy.environments.contains id = true →
    registry.environments.contains id = true

theorem Layer.finish_eq_ok {registry : Registry} {layer : Layer} {policy : Policy}
    (finished : layer.finish registry = .ok policy) : ∃ scope, policy = layer.policyIn scope := by
  obtain ⟨scope, -, isPolicy⟩ := finish_eq_ok_iff.mp finished
  exact ⟨scope, isPolicy.symm⟩

theorem Layer.WellFormed.policyIn {registry : Registry} (placed : registry.Placed)
    {layer : Layer} (wellFormed : layer.WellFormed registry) (scope : Environment) :
    (layer.policyIn scope).WellFormed registry where
  canonical id binding found := by
    simp only [Layer.policyIn, Dictionary.get?_map, Option.map_eq_some_iff] at found
    obtain ⟨setting, isSetting, -⟩ := found
    obtain ⟨registered, member, rfl, -⟩ := wellFormed.bound id setting isSetting
    exact (placed.canonicalId?_id member).1
  accepted id binding found := by
    simp only [Layer.policyIn, Dictionary.get?_map, Option.map_eq_some_iff] at found
    obtain ⟨setting, isSetting, rfl⟩ := found
    obtain ⟨registered, member, rfl, accepts⟩ := wellFormed.bound id setting isSetting
    refine ⟨registered, (placed.canonicalId?_id member).2, rfl, ?_⟩
    cases given : setting.options with
    | none => exact .inl rfl
    | some options => exact .inr (accepts options given)
  known id listed := wellFormed.known id listed

namespace Resolution

variable {registry : Registry} {sources : Sources} {name : String} {document : PolicyDocument}
  {overrides : Overrides}

theorem resolve_eq_ok_iff {resolution : Resolution} :
    resolve registry sources name document overrides = .ok resolution ↔
      ∃ layers, cascade registry sources name document overrides = .ok layers ∧
        Layer.resolve registry layers = .ok resolution.policy ∧
        layers.map (·.name) = resolution.layers := by
  obtain ⟨policy, names⟩ := resolution
  unfold resolve
  cases cascade registry sources name document overrides with
  | error error => simp
  | ok layers => cases resolved : Layer.resolve registry layers <;> simp [resolved]

theorem resolve_eq_ok {resolution : Resolution}
    (succeeds : resolve registry sources name document overrides = .ok resolution) :
    ∃ layers, cascade registry sources name document overrides = .ok layers ∧
      Layer.resolve registry layers = .ok resolution.policy := by
  obtain ⟨layers, isCascade, resolved, -⟩ := resolve_eq_ok_iff.mp succeeds
  exact ⟨layers, isCascade, resolved⟩

theorem wellFormed_of_resolve {resolution : Resolution} (reachable : registry.Reachable)
    (succeeds : resolve registry sources name document overrides = .ok resolution) :
    resolution.policy.WellFormed registry := by
  obtain ⟨layers, isCascade, resolved⟩ := resolve_eq_ok succeeds
  obtain ⟨scope, isPolicy⟩ := Layer.finish_eq_ok (Layer.resolve_eq_ok_iff.mp resolved).2
  have merged := Layer.WellFormed.mergeAll reachable.placed fun layer member =>
    (isSound_of_cascade isCascade layer member).wellFormed
  exact isPolicy ▸ merged.policyIn reachable.placed scope

theorem declares_of_resolve {resolution : Resolution}
    (succeeds : resolve registry sources name document overrides = .ok resolution)
    {id plugin : String} {binding : RuleBinding} {registered : RegisteredRule}
    (bound : resolution.policy.rules.get? id = some binding)
    (found : registry.get? id = some registered) (owned : registered.plugin = some plugin) :
    Declares registry sources name document plugin := by
  obtain ⟨layers, isCascade, resolved⟩ := resolve_eq_ok succeeds
  obtain ⟨scope, isPolicy⟩ := Layer.finish_eq_ok (Layer.resolve_eq_ok_iff.mp resolved).2
  apply declares_of_bound isCascade resolved _ found owned
  rw [isPolicy] at bound
  simp only [Layer.policyIn, Dictionary.get?_map, Option.map_eq_some_iff] at bound
  obtain ⟨setting, isSetting, -⟩ := bound
  simp [Dictionary.contains, isSetting]

/-! ## Faults -/

/-- What must not be in any document of a cascade in which the given plugins are declared. -/
inductive AtFault (registry : Registry) (declared : String → Prop) (part : PolicyDocument) : Prop
  | unknownRule {spelling : String} {value : Value}
      (binds : part.rules.get? spelling = some value)
      (unknown : registry.canonicalId? spelling = none)
  | rejectedOptions {spelling : String} {registered : RegisteredRule} {severity : Value}
      {options : List Value} {cause : OptionsError}
      (binds : part.rules.get? spelling = some (.array (severity :: options)))
      (given : options ≠ []) (found : registry.get? spelling = some registered)
      (rejected : registered.rule.validate options = .error cause)
  | unknownEnvironment {id : String} (listed : id ∈ part.environmentIds)
      (unknown : registry.environments.contains id = false)
  | undeclaredPlugin {spelling plugin : String} {value : Value} {registered : RegisteredRule}
      (binds : part.rules.get? spelling = some value)
      (found : registry.get? spelling = some registered)
      (owned : registered.plugin = some plugin) (undeclared : ¬ declared plugin)

theorem checked_of_binds {layers : List Layer} {part : PolicyDocument}
    (succeeds : cascade registry sources name document overrides = .ok layers)
    (isPart : InCascade registry sources name document overrides part) {spelling : String}
    {value : Value} (binds : part.rules.get? spelling = some value) :
    ∃ registered setting, registry.get? spelling = some registered ∧
      RuleSetting.resolve value = .ok setting ∧
      (∀ options, setting.options = some options →
        registered.rule.validate options = .ok ()) ∧
      (Layer.mergeAll layers).rules.contains registered.id = true := by
  rcases checked_of_inCascade succeeds isPart with
    ⟨-, empty⟩ | ⟨ownName, kind, own, plugin, passed, member⟩
  · have member := Dictionary.mem_of_get? binds
    rw [List.isEmpty_iff.mp empty] at member
    cases member
  · obtain ⟨registered, setting, found, resolved, accepts, bound⟩ :=
      Layer.bound_of_ofDocument passed binds
    refine ⟨registered, setting, found, resolved, accepts, ?_⟩
    rw [Layer.contains_rules_mergeAll, List.any_eq_true]
    exact ⟨own.declaring plugin, member, by rwa [Layer.rules_declaring]⟩

theorem not_atFault_of_ok {resolution : Resolution} (reachable : registry.Reachable)
    (succeeds : resolve registry sources name document overrides = .ok resolution)
    {part : PolicyDocument} (isPart : InCascade registry sources name document overrides part) :
    ¬ AtFault registry (Declares registry sources name document) part := by
  obtain ⟨layers, isCascade, resolved⟩ := resolve_eq_ok succeeds
  intro fault
  cases fault with
  | unknownRule binds unknown =>
      obtain ⟨registered, -, found, -⟩ := checked_of_binds isCascade isPart binds
      simp [Registry.get?, unknown] at found
  | rejectedOptions binds given found rejected =>
      obtain ⟨registered, setting, alsoFound, isSetting, accepts, -⟩ :=
        checked_of_binds isCascade isPart binds
      cases found.symm.trans alsoFound
      simp [accepts _ (RuleSetting.options_of_resolve given isSetting)] at rejected
  | unknownEnvironment listed unknown =>
      rcases checked_of_inCascade isCascade isPart with
        ⟨none, -⟩ | ⟨ownName, kind, own, plugin, passed, -⟩
      · simp [none] at listed
      · obtain ⟨-, -, -, known, -⟩ := Layer.ofDocument_eq_ok_iff.mp passed
        simp [known _ listed] at unknown
  | undeclaredPlugin binds found owned undeclared =>
      obtain ⟨registered, -, alsoFound, -, -, bound⟩ := checked_of_binds isCascade isPart binds
      cases found.symm.trans alsoFound
      have byId := (reachable.placed.canonicalId?_id (Registry.mem_rules_of_get? found)).2
      exact undeclared (declares_of_bound isCascade resolved bound byId owned)

/--
A policy that a resolution comes to is well formed and binds rules of declared plugins
only; and a resolution with a fault in the root, in a document that is reached from it
or in the overrides fails, whatever severities and later layers say.
-/
theorem resolve_yields_wellFormed_policy {registry : Registry} (reachable : registry.Reachable)
    (sources : Sources) (name : String) (document : PolicyDocument) (overrides : Overrides) :
    (∀ resolution, resolve registry sources name document overrides = .ok resolution →
      resolution.policy.WellFormed registry ∧
        ∀ id binding registered plugin, resolution.policy.rules.get? id = some binding →
          registry.get? id = some registered → registered.plugin = some plugin →
            Declares registry sources name document plugin) ∧
      ∀ part, InCascade registry sources name document overrides part →
        AtFault registry (Declares registry sources name document) part →
          ∃ error, resolve registry sources name document overrides = .error error := by
  constructor
  · intro resolution succeeds
    exact ⟨wellFormed_of_resolve reachable succeeds,
      fun _ _ _ _ bound found owned => declares_of_resolve succeeds bound found owned⟩
  · intro part isPart fault
    cases outcome : resolve registry sources name document overrides with
    | error error => exact ⟨error, rfl⟩
    | ok resolution => exact absurd fault (not_atFault_of_ok reachable outcome isPart)

def housePlugin : Plugin where
  name := "house"
  rules := [Rules.NoDebugger.rule]
  configs := (∅ : Dictionary Value).insert "strict"
    (.object [("rules", .object [("house/no-debugger", .string "error")])])
  environments := ∅

def houseRegistry : Registry :=
  { Registry.empty.add (some "house") Rules.NoDebugger.rule with
    plugins := (∅ : Dictionary (Dictionary Value)).insert "house" housePlugin.configs }

theorem resolve_extending_house :
    let document : PolicyDocument :=
      { PolicyDocument.empty with extending := some (.one "plugin:house/strict") }
    houseRegistry.Reachable ∧
      ∃ resolution, resolve houseRegistry ∅ "root" document .none = .ok resolution ∧
        resolution.policy.rules.keys = ["house/no-debugger"] ∧
        resolution.policy.WellFormed houseRegistry ∧
        Declares houseRegistry ∅ "root" document "house" := by
  intro document
  have reachable : houseRegistry.Reachable :=
    .registerPlugin .empty (show Registry.empty.registerPlugin housePlugin = _ from rfl)
  have provided : Target.Provides houseRegistry ∅ (PluginReference.text ⟨"house", "strict"⟩)
      (some "house") _ :=
    .config (by decide) rfl
  have expands : Expansion.Expands houseRegistry ∅ ["root"]
      [PluginReference.text ⟨"house", "strict"⟩] _ :=
    .document provided rfl (by decide) .nil rfl .nil
  have succeeds : ∃ resolution, resolve houseRegistry ∅ "root" document .none = .ok resolution ∧
      resolution.policy.rules.keys = ["house/no-debugger"] := by
    have listed : document.references = [PluginReference.text ⟨"house", "strict"⟩] := rfl
    rw [resolve, cascade, Layer.expand_eq, listed, Expansion.ok_of_expands expands rfl]
    exact ⟨_, rfl, rfl⟩
  obtain ⟨resolution, resolved, keys⟩ := succeeds
  obtain ⟨wellFormed, declared⟩ :=
    (resolve_yields_wellFormed_policy reachable ∅ "root" document .none).1 resolution resolved
  have bound : resolution.policy.rules.contains "house/no-debugger" = true := by
    rw [← Dictionary.mem_keys_iff, keys]
    exact List.mem_singleton_self _
  obtain ⟨binding, isBinding⟩ := Option.isSome_iff_exists.mp bound
  exact ⟨reachable, resolution, resolved, keys, wellFormed,
    declared "house/no-debugger" binding _ "house" isBinding rfl rfl⟩

end Resolution

end ScriptLint
