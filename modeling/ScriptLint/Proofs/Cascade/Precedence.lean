import ScriptLint.Proofs.Cascade.Repetition
import ScriptLint.Proofs.Environment.Scope

/-!
# Precedence of layers

Layers are merged pair by pair, but what they come to can be read off the list: of all
that a cascade says on one point, the last layer that says anything counts.  The
severity of a rule and its options are two points.  They may come from different
layers, and a rule that was off has its latest options when it is on again.

Environments count only where no layer says anything, and among them the greatest
value counts.  Which layer declares an environment does not matter.
-/

namespace ScriptLint.Layer

/-! ## The last layer that gives a value -/

section LastGiven

variable {β : Type} {given : Layer → Option β} {layers : List Layer}

/-- What the last of the layers that give a value gives. -/
def lastGiven (given : Layer → Option β) (layers : List Layer) : Option β :=
  layers.reverse.findSome? given

@[simp] theorem lastGiven_nil : lastGiven given [] = none := rfl

theorem lastGiven_append (before after : List Layer) :
    lastGiven given (before ++ after) = (lastGiven given after).or (lastGiven given before) := by
  rw [lastGiven, List.reverse_append, List.findSome?_append]
  rfl

@[simp] theorem lastGiven_cons (layer : Layer) (rest : List Layer) :
    lastGiven given (layer :: rest) = (lastGiven given rest).or (given layer) := by
  have single : lastGiven given [layer] = given layer := by
    cases value : given layer <;> simp [lastGiven, value]
  rw [← List.singleton_append, lastGiven_append, single]

theorem lastGiven_eq_none_iff :
    lastGiven given layers = none ↔ ∀ layer ∈ layers, given layer = none := by
  simp [lastGiven]

theorem isSome_lastGiven_iff :
    (lastGiven given layers).isSome = true ↔ ∃ layer ∈ layers, (given layer).isSome = true := by
  simp [lastGiven]

theorem mergeAll_eq_lastGiven (absent : given neutral = none)
    (overrides : ∀ earlier later : Layer,
      given (earlier.merge later) = (given later).or (given earlier)) (layers : List Layer) :
    given (mergeAll layers) = lastGiven given layers := by
  have folded (start : Layer) :
      given (layers.foldl merge start) = (lastGiven given layers).or (given start) := by
    induction layers generalizing start with
    | nil => rfl
    | cons first rest ih => rw [List.foldl_cons, ih, overrides, lastGiven_cons, Option.or_assoc]
  rw [mergeAll, folded, absent, Option.or_none]

end LastGiven

/-! ## Severities and options -/

def severityOf? (id : String) (layer : Layer) : Option Severity :=
  (layer.rules.get? id).map RuleSetting.severity

def optionsOf? (id : String) (layer : Layer) : Option (List Value) :=
  (layer.rules.get? id).bind RuleSetting.options

theorem severityOf?_merge (id : String) (earlier later : Layer) :
    severityOf? id (earlier.merge later) = (severityOf? id later).or (severityOf? id earlier) := by
  simp only [severityOf?, merge, Dictionary.get?_overlay]
  cases later.rules.get? id <;> simp [RuleSetting.over]

theorem optionsOf?_merge (id : String) (earlier later : Layer) :
    optionsOf? id (earlier.merge later) = (optionsOf? id later).or (optionsOf? id earlier) := by
  simp only [optionsOf?, merge, Dictionary.get?_overlay]
  cases later.rules.get? id <;> simp [RuleSetting.over]

theorem severityOf?_mergeAll (id : String) (layers : List Layer) :
    severityOf? id (mergeAll layers) = lastGiven (severityOf? id) layers :=
  mergeAll_eq_lastGiven rfl (severityOf?_merge id) layers

theorem optionsOf?_mergeAll (id : String) (layers : List Layer) :
    optionsOf? id (mergeAll layers) = lastGiven (optionsOf? id) layers :=
  mergeAll_eq_lastGiven rfl (optionsOf?_merge id) layers

theorem get?_rules_policyIn (layer : Layer) (scope : Environment) (id : String) :
    (layer.policyIn scope).rules.get? id =
      (severityOf? id layer).map fun severity => ⟨severity, (optionsOf? id layer).getD []⟩ := by
  simp only [policyIn, Dictionary.get?_map, severityOf?, optionsOf?]
  cases layer.rules.get? id <;> simp

theorem get?_rules_of_resolve {registry : Registry} {layers : List Layer} {policy : Policy}
    (resolved : resolve registry layers = .ok policy) (id : String) :
    policy.rules.get? id = (lastGiven (severityOf? id) layers).map fun severity =>
      ⟨severity, (lastGiven (optionsOf? id) layers).getD []⟩ := by
  obtain ⟨scope, -, rfl⟩ := exists_scope_of_resolve resolved
  rw [get?_rules_policyIn, severityOf?_mergeAll, optionsOf?_mergeAll]

/--
A policy binds the rules that some layer binds, each with the severity of the last
layer that binds it and the options of the last layer that gives any.  So a rule that
bare severities, off among them, follow since its last options has those options.
-/
theorem resolve_binds_by_last_layers {registry : Registry} {layers : List Layer}
    {policy : Policy} (resolved : resolve registry layers = .ok policy) (id : String) :
    (policy.rules.contains id = true ↔ ∃ layer ∈ layers, layer.rules.contains id = true) ∧
      (∀ binding, policy.rules.get? id = some binding →
        lastGiven (severityOf? id) layers = some binding.severity ∧
          binding.options = (lastGiven (optionsOf? id) layers).getD []) ∧
      ∀ before specifying between last after options severity,
        layers = before ++ specifying :: between ++ last :: after →
        optionsOf? id specifying = some options →
        (∀ layer ∈ between, optionsOf? id layer = none) →
        last.rules.get? id = some ⟨severity, none⟩ →
        (∀ layer ∈ after, layer.rules.get? id = none) →
          policy.rules.get? id = some ⟨severity, options⟩ := by
  have bound := get?_rules_of_resolve resolved id
  refine ⟨?_, ?_, ?_⟩
  · rw [Dictionary.contains, bound, Option.isSome_map, isSome_lastGiven_iff]
    simp only [severityOf?, Option.isSome_map, Dictionary.contains]
  · intro binding found
    rw [bound, Option.map_eq_some_iff] at found
    obtain ⟨severity, isLast, rfl⟩ := found
    exact ⟨isLast, rfl⟩
  · rintro before specifying between last after options severity rfl specified bare reenabled silent
    have noSeverity : lastGiven (severityOf? id) after = none :=
      lastGiven_eq_none_iff.mpr fun layer member => by simp [severityOf?, silent layer member]
    have noOptions : lastGiven (optionsOf? id) after = none :=
      lastGiven_eq_none_iff.mpr fun layer member => by simp [optionsOf?, silent layer member]
    have isLast : severityOf? id last = some severity := by simp [severityOf?, reenabled]
    have isBare : optionsOf? id last = none := by simp [optionsOf?, reenabled]
    rw [bound]
    simp [lastGiven_append, noSeverity, noOptions, isLast, isBare,
      lastGiven_eq_none_iff.mpr bare, specified]

/-- Options from the first layer, off in the second, a bare severity in the third. -/
theorem resolve_brings_back_options :
    let binding (name : String) (setting : RuleSetting) : Layer :=
      { empty name .inherited with
        rules := (∅ : Dictionary RuleSetting).insert "quote-style" setting }
    let first := binding "base" ⟨.blocking, some [.string "single"]⟩
    let second := binding "middle" ⟨.off, none⟩
    let third := binding "local" ⟨.advisory, none⟩
    ∃ policy, resolve (Registry.empty.add none Rules.QuoteStyle.rule) [first, second, third] =
        .ok policy ∧
      policy.rules.get? "quote-style" = some ⟨.advisory, [.string "single"]⟩ := by
  intro binding first second third
  have succeeds : ∃ policy, resolve (Registry.empty.add none Rules.QuoteStyle.rule)
      [first, second, third] = .ok policy := ⟨_, rfl⟩
  obtain ⟨policy, resolved⟩ := succeeds
  obtain ⟨-, -, reenabled⟩ := resolve_binds_by_last_layers resolved "quote-style"
  have bare : ∀ layer ∈ [second], optionsOf? "quote-style" layer = none := by
    intro layer member
    rw [List.mem_singleton.mp member]
    rfl
  exact ⟨policy, resolved, reenabled [] first [second] third [] _ _ rfl rfl bare rfl (by simp)⟩

/-! ## Environments -/

def DeclaresEnvironment (layers : List Layer) (id : String) : Prop :=
  ∃ layer ∈ layers, layer.environments.contains id = true

def withoutEnvironments (layer : Layer) : Layer := { layer with environments := ∅ }

theorem contains_environments_mergeAll (layers : List Layer) (id : String) :
    (mergeAll layers).environments.contains id = true ↔ DeclaresEnvironment layers id := by
  have anywhere := mergeAll_any (fun layer => layer.environments.contains id) rfl
    (fun earlier later => contains_environments_merge earlier later id) layers
  rw [anywhere, List.any_eq_true]
  rfl

theorem withoutEnvironments_mergeAll (layers : List Layer) :
    (mergeAll layers).withoutEnvironments = mergeAll (layers.map withoutEnvironments) := by
  have folded (start : Layer) : (layers.foldl merge start).withoutEnvironments =
      (layers.map withoutEnvironments).foldl merge start.withoutEnvironments := by
    induction layers generalizing start with
    | nil => rfl
    | cons first rest ih =>
        rw [List.foldl_cons, ih, List.map_cons, List.foldl_cons]
        rfl
  exact folded neutral

theorem mergeAll_eq_of_withoutEnvironments {layers other : List Layer}
    (declared : ∀ id, DeclaresEnvironment other id ↔ DeclaresEnvironment layers id)
    (rest : other.map withoutEnvironments = layers.map withoutEnvironments) :
    mergeAll other = mergeAll layers := by
  have environments : (mergeAll other).environments = (mergeAll layers).environments := by
    apply NameSet.ext_contains
    intro id
    rw [contains_environments_mergeAll, contains_environments_mergeAll, declared]
  have others : (mergeAll other).withoutEnvironments = (mergeAll layers).withoutEnvironments := by
    rw [withoutEnvironments_mergeAll, withoutEnvironments_mergeAll, rest]
  calc mergeAll other
      = { (mergeAll other).withoutEnvironments with
          environments := (mergeAll other).environments } := rfl
    _ = { (mergeAll layers).withoutEnvironments with
          environments := (mergeAll layers).environments } := by rw [others, environments]
    _ = mergeAll layers := rfl

/-! ## Globals and capabilities -/

def modeOf? (name : String) (layer : Layer) : Option AccessMode := layer.globals.get? name

theorem modeOf?_mergeAll (name : String) (layers : List Layer) :
    modeOf? name (mergeAll layers) = lastGiven (modeOf? name) layers := by
  apply mergeAll_eq_lastGiven rfl
  intro earlier later
  simp [modeOf?, merge]

theorem syntaxVersion_mergeAll (layers : List Layer) :
    (mergeAll layers).syntaxVersion = lastGiven syntaxVersion layers :=
  mergeAll_eq_lastGiven rfl (fun _ _ => rfl) layers

theorem sourceType_mergeAll (layers : List Layer) :
    (mergeAll layers).sourceType = lastGiven sourceType layers :=
  mergeAll_eq_lastGiven rfl (fun _ _ => rfl) layers

theorem get?_globals_policyIn (layer : Layer) (scope : Environment) (name : String) :
    (layer.policyIn scope).globals.get? name =
      (modeOf? name layer).or (scope.globals.get? name) := by
  simp [policyIn, modeOf?]

/--
The environments of a policy are those that any layer declares.  A global has the mode
of the last layer that declares it and else the most permissive one that an
environment grants; an edition and a source type are those of the last layer that sets
them, else the greatest that an environment implies, else the fifth and script.  So
declarations in layers prevail over environments, whatever these grant, and it does not
matter which layer declares an environment.
-/
theorem resolve_prefers_layers_to_environments {registry : Registry} {layers : List Layer}
    {policy : Policy} (resolved : resolve registry layers = .ok policy) :
    (∀ id, policy.environments.contains id = true ↔ DeclaresEnvironment layers id) ∧
      (∀ name, ∃ granted,
        GreatestBy AccessMode.rank (registry.environments.Offers (DeclaresEnvironment layers)
          (Environment.modeOf? name)) granted ∧
        policy.globals.get? name = (lastGiven (modeOf? name) layers).or granted) ∧
      (∃ implied,
        GreatestBy SyntaxVersion.year (registry.environments.Offers (DeclaresEnvironment layers)
          Environment.syntaxVersion) implied ∧
        policy.capabilities.syntaxVersion =
          ((lastGiven syntaxVersion layers).or implied).getD .fifth) ∧
      (∃ implied,
        GreatestBy SourceType.rank (registry.environments.Offers (DeclaresEnvironment layers)
          Environment.sourceType) implied ∧
        policy.capabilities.sourceType =
          ((lastGiven sourceType layers).or implied).getD .script) ∧
      (∀ name mode, lastGiven (modeOf? name) layers = some mode →
        policy.globals.get? name = some mode) ∧
      ∀ other, (∀ id, DeclaresEnvironment other id ↔ DeclaresEnvironment layers id) →
        other.map withoutEnvironments = layers.map withoutEnvironments →
          resolve registry other = .ok policy := by
  obtain ⟨scope, isScope, isPolicy⟩ := exists_scope_of_resolve resolved
  have sameOffers {α : Type} (point : Environment → Option α) (value : α) :
      registry.environments.Offers ((mergeAll layers).environments.contains · = true) point value ↔
        registry.environments.Offers (DeclaresEnvironment layers) point value := by
    simp only [EnvironmentTable.Offers, contains_environments_mergeAll]
  have globals (name : String) : policy.globals.get? name =
      (lastGiven (modeOf? name) layers).or (scope.globals.get? name) := by
    rw [← isPolicy, get?_globals_policyIn, modeOf?_mergeAll]
  refine ⟨?_, ?_, ?_, ?_, ?_, ?_⟩
  · intro id
    rw [← contains_environments_mergeAll, ← isPolicy]
    rfl
  · intro name
    have greatest := EnvironmentTable.resolve_greatest (Environment.joinsBy_modeOf? name) isScope
    exact ⟨scope.globals.get? name, greatest.congr (sameOffers _), globals name⟩
  · have greatest := EnvironmentTable.resolve_greatest Environment.joinsBy_syntaxVersion isScope
    refine ⟨scope.syntaxVersion, greatest.congr (sameOffers _), ?_⟩
    rw [← isPolicy, ← syntaxVersion_mergeAll]
    rfl
  · have greatest := EnvironmentTable.resolve_greatest Environment.joinsBy_sourceType isScope
    refine ⟨scope.sourceType, greatest.congr (sameOffers _), ?_⟩
    rw [← isPolicy, ← sourceType_mergeAll]
    rfl
  · intro name mode declared
    rw [globals, declared, Option.some_or]
  · intro other declared rest
    exact (resolve_congr (mergeAll_eq_of_withoutEnvironments declared rest) policy).mpr resolved

/--
A name is read-only since the first layer says so, although the environment of the
second layer grants more, and the environment may as well be declared in the first.
-/
theorem resolve_readOnly_over_environment :
    let page : Environment := ⟨(∅ : Globals).insert "app" .readWrite, some .latest, none⟩
    let registry : Registry :=
      { Registry.empty with environments := (∅ : EnvironmentTable).insert "page" page }
    let declaring : Layer :=
      { empty "base" .inherited with globals := (∅ : Globals).insert "app" .readOnly }
    let own : Layer := empty "local" .localOverride
    let pages : NameSet := (∅ : NameSet).add "page"
    ∃ policy, resolve registry [declaring, { own with environments := pages }] = .ok policy ∧
      policy.globals.get? "app" = some .readOnly ∧
      resolve registry [{ declaring with environments := pages }, own] = .ok policy := by
  intro page registry declaring own pages
  have succeeds : ∃ policy,
      resolve registry [declaring, { own with environments := pages }] = .ok policy := ⟨_, rfl⟩
  obtain ⟨policy, resolved⟩ := succeeds
  obtain ⟨-, -, -, -, prevails, moved⟩ := resolve_prefers_layers_to_environments resolved
  refine ⟨policy, resolved, prevails "app" .readOnly rfl, moved _ ?_ rfl⟩
  have none (id : String) : ¬ (∅ : NameSet).contains id = true := by simp [Dictionary.contains]
  intro id
  simp [DeclaresEnvironment, declaring, own, empty, none]

end ScriptLint.Layer
