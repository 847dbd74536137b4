import ScriptLint.Proofs.Cascade.WellFormed
import ScriptLint.Proofs.Registry.History

/-!
# Spellings of rules

A document may bind a rule under its id or under any of its aliases, and the check of a
document brings all spellings to the id.  As long as no document binds one rule twice,
which spellings it uses changes the order in which its bindings are checked and nothing
else.  Documents are therefore compared by the layers that they become; a cascade whose
documents become the same layers, reference by reference, comes to the same policy.
-/

namespace ScriptLint

theorem Dictionary.get?_ofList_map_keys {α : Type} {dictionary : Dictionary α}
    {rename : String → String}
    (injective : ∀ first ∈ dictionary.keys, ∀ second ∈ dictionary.keys,
      rename first = rename second → first = second) {key : String} {value : α} :
    (ofList (dictionary.entries.map fun entry => (rename entry.1, entry.2))).get? key =
        some value ↔
      ∃ old, dictionary.get? old = some value ∧ rename old = key := by
  have functional : ∀ key first second,
      (key, first) ∈ dictionary.entries.map (fun entry => (rename entry.1, entry.2)) →
      (key, second) ∈ dictionary.entries.map (fun entry => (rename entry.1, entry.2)) →
        first = second := by
    intro key first second isFirst isSecond
    obtain ⟨⟨one, _⟩, inFirst, same⟩ := List.mem_map.mp isFirst
    obtain ⟨⟨two, _⟩, inSecond, sameToo⟩ := List.mem_map.mp isSecond
    cases same
    obtain ⟨sameKey, rfl⟩ := Prod.mk.inj sameToo
    have foundOne := get?_eq_some_iff.mpr inFirst
    have foundTwo := get?_eq_some_iff.mpr inSecond
    rw [injective two (mem_keys_of_get? foundTwo) one (mem_keys_of_get? foundOne) sameKey,
      foundOne] at foundTwo
    exact Option.some.inj foundTwo
  rw [get?_ofList_eq_some_iff functional, List.mem_map]
  constructor
  · rintro ⟨⟨old, _⟩, member, same⟩
    cases same
    exact ⟨old, get?_eq_some_iff.mpr member, rfl⟩
  · rintro ⟨old, found, rfl⟩
    exact ⟨(old, value), get?_eq_some_iff.mp found, rfl⟩

section Rel

variable {α β : Type} {relation : α → β → Prop} {first : Option α} {second : Option β}

theorem exists_right_of_rel (related : Option.Rel relation first second) {value : α}
    (found : first = some value) : ∃ other, second = some other ∧ relation value other := by
  cases related with
  | none => cases found
  | some same =>
      cases found
      exact ⟨_, rfl, same⟩

theorem exists_left_of_rel (related : Option.Rel relation first second) {value : β}
    (found : second = some value) : ∃ other, first = some other ∧ relation other value := by
  cases related with
  | none => cases found
  | some same =>
      cases found
      exact ⟨_, rfl, same⟩

end Rel

/-! ## Bindings under other spellings -/

namespace Registry

/-- Two spellings of one rule, or one text. -/
def SameRule (registry : Registry) (first second : String) : Prop :=
  first = second ∨
    ∃ registered ∈ registry.rules, first ∈ registered.names ∧ second ∈ registered.names

/-- No rule is bound under two spellings. -/
def BindsOnce (registry : Registry) (rules : Dictionary Value) : Prop :=
  ∀ registered ∈ registry.rules, ∀ first ∈ rules.keys, ∀ second ∈ rules.keys,
    first ∈ registered.names → second ∈ registered.names → first = second

/-- The second bindings are the first ones with keys replaced by other spellings of their rules. -/
def Respells (registry : Registry) (rules respelled : Dictionary Value) : Prop :=
  ∃ spell : String → String, (∀ key ∈ rules.keys, registry.SameRule key (spell key)) ∧
    respelled = .ofList (rules.entries.map fun entry => (spell entry.1, entry.2))

variable {registry : Registry} {rules respelled : Dictionary Value}

theorem Consistent.eq_of_mem_names (consistent : registry.Consistent)
    {first second : RegisteredRule} (isFirst : first ∈ registry.rules)
    (isSecond : second ∈ registry.rules) {name : String} (ofFirst : name ∈ first.names)
    (ofSecond : name ∈ second.names) : first = second := by
  have found := consistent.get?_eq_some_iff.mpr ⟨isFirst, ofFirst⟩
  rw [consistent.get?_eq_some_iff.mpr ⟨isSecond, ofSecond⟩] at found
  exact (Option.some.inj found).symm

namespace SameRule

variable {first second : String}

theorem get?_eq (same : registry.SameRule first second) (consistent : registry.Consistent) :
    registry.get? first = registry.get? second := by
  rcases same with rfl | ⟨registered, member, ofFirst, ofSecond⟩
  · rfl
  · rw [consistent.get?_eq_some_iff.mpr ⟨member, ofFirst⟩,
      consistent.get?_eq_some_iff.mpr ⟨member, ofSecond⟩]

theorem mem_names (same : registry.SameRule first second) (consistent : registry.Consistent)
    {registered : RegisteredRule} (member : registered ∈ registry.rules)
    (ofSecond : second ∈ registered.names) : first ∈ registered.names := by
  rcases same with rfl | ⟨other, isOther, ofFirst, alsoSecond⟩
  · exact ofSecond
  · exact consistent.eq_of_mem_names isOther member alsoSecond ofSecond ▸ ofFirst

end SameRule

theorem BindsOnce.spell_injective (once : registry.BindsOnce rules)
    (consistent : registry.Consistent) {spell : String → String}
    (spelled : ∀ key ∈ rules.keys, registry.SameRule key (spell key)) :
    ∀ first ∈ rules.keys, ∀ second ∈ rules.keys, spell first = spell second → first = second := by
  intro first isFirst second isSecond same
  rcases spelled first isFirst with kept | ⟨registered, member, ofFirst, ofSpelled⟩
  · rcases spelled second isSecond with alsoKept | ⟨registered, member, ofSecond, ofSpelled⟩
    · rw [kept, same, ← alsoKept]
    · rw [← same, ← kept] at ofSpelled
      exact once registered member first isFirst second isSecond ofSpelled ofSecond
  · rw [same] at ofSpelled
    have ofSecond := (spelled second isSecond).mem_names consistent member ofSpelled
    exact once registered member first isFirst second isSecond ofFirst ofSecond

/-- Bindings that are the same up to the spelling of their keys, seen from either side. -/
structure Corresponds (registry : Registry) (rules respelled : Dictionary Value) : Prop where
  forward : ∀ key value, rules.get? key = some value →
    ∃ other, respelled.get? other = some value ∧ registry.SameRule key other
  backward : ∀ other value, respelled.get? other = some value →
    ∃ key, rules.get? key = some value ∧ registry.SameRule key other
  once : registry.BindsOnce rules
  onceRespelled : registry.BindsOnce respelled

theorem Corresponds.isEmpty_iff (same : registry.Corresponds rules respelled) :
    rules.isEmpty = true ↔ respelled.isEmpty = true := by
  simp only [Dictionary.isEmpty_iff, Option.eq_none_iff_forall_not_mem, Option.mem_def]
  constructor
  · intro empty other value found
    obtain ⟨key, isKey, -⟩ := same.backward other value found
    exact empty key value isKey
  · intro empty key value found
    obtain ⟨other, isOther, -⟩ := same.forward key value found
    exact empty other value isOther

theorem Respells.corresponds (respells : registry.Respells rules respelled)
    (consistent : registry.Consistent) (once : registry.BindsOnce rules) :
    registry.Corresponds rules respelled := by
  obtain ⟨spell, spelled, rfl⟩ := respells
  have lookup {other : String} {value : Value} :
      (Dictionary.ofList (rules.entries.map fun entry => (spell entry.1, entry.2))).get? other =
        some value ↔ ∃ key, rules.get? key = some value ∧ spell key = other :=
    Dictionary.get?_ofList_map_keys (once.spell_injective consistent spelled)
  have origin : ∀ other ∈ (Dictionary.ofList
      (rules.entries.map fun entry => (spell entry.1, entry.2))).keys,
        ∃ key ∈ rules.keys, spell key = other := by
    intro other member
    rw [Dictionary.mem_keys_iff, Dictionary.contains, Option.isSome_iff_exists] at member
    obtain ⟨value, found⟩ := member
    obtain ⟨key, isKey, same⟩ := lookup.mp found
    exact ⟨key, Dictionary.mem_keys_of_get? isKey, same⟩
  refine ⟨?_, ?_, once, ?_⟩
  · intro key value found
    exact ⟨spell key, lookup.mpr ⟨key, found, rfl⟩,
      spelled key (Dictionary.mem_keys_of_get? found)⟩
  · intro other value found
    obtain ⟨key, isKey, rfl⟩ := lookup.mp found
    exact ⟨key, isKey, spelled key (Dictionary.mem_keys_of_get? isKey)⟩
  · intro registered member first isFirst second isSecond ofFirst ofSecond
    obtain ⟨key, isKey, rfl⟩ := origin first isFirst
    obtain ⟨otherKey, isOtherKey, rfl⟩ := origin second isSecond
    rw [once registered member key isKey otherKey isOtherKey
      ((spelled key isKey).mem_names consistent member ofFirst)
      ((spelled otherKey isOtherKey).mem_names consistent member ofSecond)]

end Registry

/-! ## The check of bindings -/

namespace Layer

variable {registry : Registry}

theorem exists_checkRules_iff {entries : List (String × Value)} :
    (∃ settings, checkRules registry entries = .ok settings) ↔
      ∀ entry ∈ entries, ∃ setting, checkRule registry entry.1 entry.2 = .ok setting := by
  constructor
  · rintro ⟨settings, passed⟩ entry member
    obtain ⟨setting, -, own⟩ := (checkRules_ok passed).1 entry member
    exact ⟨setting, own⟩
  · intro each
    induction entries with
    | nil => exact ⟨[], rfl⟩
    | cons entry rest ih =>
        obtain ⟨⟨setting, own⟩, eachOther⟩ := List.forall_mem_cons.mp each
        obtain ⟨settings, others⟩ := ih eachOther
        exact ⟨setting :: settings, by simp [checkRules, own, others, Except.map]⟩

section BindsOnce

variable {rules : Dictionary Value}

theorem functional_of_checkRules (consistent : registry.Consistent)
    (once : registry.BindsOnce rules) {settings : List (String × RuleSetting)}
    (passed : checkRules registry rules.entries = .ok settings) :
    ∀ id first second, (id, first) ∈ settings → (id, second) ∈ settings → first = second := by
  intro id first second isFirst isSecond
  obtain ⟨key, value, bound, own⟩ := (mem_iff_of_checkRules passed).mp isFirst
  obtain ⟨other, otherValue, otherBound, otherOwn⟩ := (mem_iff_of_checkRules passed).mp isSecond
  obtain ⟨registered, _, found, -, -, same⟩ := checkRule_eq_ok_iff.mp own
  obtain ⟨counterpart, _, alsoFound, -, -, sameToo⟩ := checkRule_eq_ok_iff.mp otherOwn
  obtain ⟨member, isName⟩ := consistent.get?_eq_some_iff.mp found
  obtain ⟨alsoMember, alsoName⟩ := consistent.get?_eq_some_iff.mp alsoFound
  have sameId : registered.id = counterpart.id :=
    (congrArg Prod.fst same).trans (congrArg Prod.fst sameToo).symm
  obtain rfl := eq_of_id_eq consistent.placed member alsoMember sameId
  obtain rfl := once registered member key (Dictionary.mem_keys_of_get? bound) other
    (Dictionary.mem_keys_of_get? otherBound) isName alsoName
  cases bound.symm.trans otherBound
  cases own.symm.trans otherOwn
  rfl

theorem get?_ofList_of_checkRules (consistent : registry.Consistent)
    (once : registry.BindsOnce rules) {settings : List (String × RuleSetting)}
    (passed : checkRules registry rules.entries = .ok settings) (id : String)
    (setting : RuleSetting) :
    (Dictionary.ofList settings).get? id = some setting ↔
      ∃ key value, rules.get? key = some value ∧
        checkRule registry key value = .ok (id, setting) := by
  rw [Dictionary.get?_ofList_eq_some_iff (functional_of_checkRules consistent once passed)]
  exact mem_iff_of_checkRules passed

theorem checkRules_ofList_iff (consistent : registry.Consistent)
    (once : registry.BindsOnce rules) {table : Dictionary RuleSetting} :
    (∃ settings, checkRules registry rules.entries = .ok settings ∧ .ofList settings = table) ↔
      (∀ key value, rules.get? key = some value →
        ∃ setting, checkRule registry key value = .ok setting) ∧
      ∀ id setting, table.get? id = some setting ↔
        ∃ key value, rules.get? key = some value ∧
          checkRule registry key value = .ok (id, setting) := by
  constructor
  · rintro ⟨settings, passed, rfl⟩
    refine ⟨?_, get?_ofList_of_checkRules consistent once passed⟩
    intro key value bound
    exact exists_checkRules_iff.mp ⟨settings, passed⟩ (key, value)
      (Dictionary.get?_eq_some_iff.mp bound)
  · rintro ⟨each, described⟩
    obtain ⟨settings, passed⟩ := exists_checkRules_iff.mpr fun (entry : String × Value) member =>
      each entry.1 entry.2 (Dictionary.get?_eq_some_iff.mpr member)
    refine ⟨settings, passed, Dictionary.ext_get? fun id => Option.ext fun setting => ?_⟩
    rw [get?_ofList_of_checkRules consistent once passed, described]

end BindsOnce

theorem checkRule_eq_ok_of_get? {name other : String}
    (same : registry.get? name = registry.get? other) (value : Value)
    (result : String × RuleSetting) :
    checkRule registry name value = .ok result ↔ checkRule registry other value = .ok result := by
  rw [checkRule_eq_ok_iff, checkRule_eq_ok_iff, same]

theorem checkRules_of_corresponds (consistent : registry.Consistent)
    {rules respelled : Dictionary Value} (same : registry.Corresponds rules respelled)
    {table : Dictionary RuleSetting} :
    (∃ settings, checkRules registry rules.entries = .ok settings ∧ .ofList settings = table) ↔
      ∃ settings, checkRules registry respelled.entries = .ok settings ∧
        .ofList settings = table := by
  rw [checkRules_ofList_iff consistent same.once,
    checkRules_ofList_iff consistent same.onceRespelled]
  have transfer {key other : String} (sameRule : registry.SameRule key other) (value : Value) :=
    checkRule_eq_ok_of_get? (sameRule.get?_eq consistent) value
  refine and_congr ⟨?_, ?_⟩ (forall₂_congr fun id setting => iff_congr Iff.rfl ⟨?_, ?_⟩)
  · intro each other value bound
    obtain ⟨key, isKey, sameRule⟩ := same.backward other value bound
    obtain ⟨result, own⟩ := each key value isKey
    exact ⟨result, (transfer sameRule value result).mp own⟩
  · intro each key value bound
    obtain ⟨other, isOther, sameRule⟩ := same.forward key value bound
    obtain ⟨result, own⟩ := each other value isOther
    exact ⟨result, (transfer sameRule value result).mpr own⟩
  · rintro ⟨key, value, bound, own⟩
    obtain ⟨other, isOther, sameRule⟩ := same.forward key value bound
    exact ⟨other, value, isOther, (transfer sameRule value _).mp own⟩
  · rintro ⟨other, value, bound, own⟩
    obtain ⟨key, isKey, sameRule⟩ := same.backward other value bound
    exact ⟨key, value, isKey, (transfer sameRule value _).mpr own⟩

end Layer

/-! ## Documents under other spellings -/

structure PolicyDocument.Respells (registry : Registry) (document respelled : PolicyDocument) :
    Prop where
  rules : registry.Respells document.rules respelled.rules
  others : respelled = { document with rules := respelled.rules }

theorem PolicyDocument.Respells.references_eq {registry : Registry}
    {document respelled : PolicyDocument} (respells : document.Respells registry respelled) :
    respelled.references = document.references := by
  rw [respells.others]
  rfl

inductive Source.Respells (registry : Registry) : Source → Source → Prop
  | unparsed {source : Source} {cause : ParseFault} (fails : source.document = .error cause) :
      Respells registry source source
  | parsed {source other : Source} {document respelled : PolicyDocument}
      (isDocument : source.document = .ok document)
      (isRespelled : other.document = .ok respelled)
      (respells : document.Respells registry respelled) : Respells registry source other

namespace Source.Respells

variable {registry : Registry} {source other : Source} {document respelled : PolicyDocument}

theorem of_document (respells : source.Respells registry other)
    (parsed : source.document = .ok document) :
    ∃ respelled, other.document = .ok respelled ∧ document.Respells registry respelled := by
  cases respells with
  | unparsed fails => simp [fails] at parsed
  | parsed isDocument isRespelled spells =>
      cases isDocument.symm.trans parsed
      exact ⟨_, isRespelled, spells⟩

theorem of_respelled (respells : source.Respells registry other)
    (parsed : other.document = .ok respelled) :
    ∃ document, source.document = .ok document ∧ document.Respells registry respelled := by
  cases respells with
  | unparsed fails => simp [fails] at parsed
  | parsed isDocument isRespelled spells =>
      cases isRespelled.symm.trans parsed
      exact ⟨_, isDocument, spells⟩

end Source.Respells

def Sources.Respells (registry : Registry) (sources other : Sources) : Prop :=
  ∀ reference, Option.Rel (Source.Respells registry) (sources.load? reference)
    (other.load? reference)

/-- The registries differ at most in how configurations of plugins spell rules. -/
structure Registry.RespellsConfigs (registry other : Registry) : Prop where
  others : other = { registry with plugins := other.plugins }
  configs : ∀ plugin, Option.Rel
    (fun configs otherConfigs => ∀ config, Option.Rel
      (fun value otherValue => Source.Respells registry (.value value) (.value otherValue))
      (configs.get? config) (otherConfigs.get? config))
    (registry.plugins.get? plugin) (other.plugins.get? plugin)

structure Overrides.Respells (registry : Registry) (overrides respelled : Overrides) : Prop where
  rules : registry.Respells overrides.rules respelled.rules
  others : respelled = { overrides with rules := respelled.rules }

theorem Overrides.Respells.document {registry : Registry} {overrides respelled : Overrides}
    (respells : overrides.Respells registry respelled) :
    overrides.document.Respells registry respelled.document := by
  refine ⟨respells.rules, ?_⟩
  rw [respells.others]
  rfl

namespace Registry.RespellsConfigs

variable {registry other : Registry}

theorem get?_eq (respells : registry.RespellsConfigs other) (name : String) :
    other.get? name = registry.get? name := by
  rw [respells.others]
  rfl

theorem contains_plugins (respells : registry.RespellsConfigs other) (plugin : String) :
    other.plugins.contains plugin = registry.plugins.contains plugin := by
  have related := respells.configs plugin
  rw [Dictionary.contains, Dictionary.contains]
  generalize registry.plugins.get? plugin = own, other.plugins.get? plugin = its at related
  cases related <;> rfl

end Registry.RespellsConfigs

namespace Layer

variable {registry other : Registry}

theorem ofDocument_eq_ok_iff_rules {name : String} {kind : LayerKind} {document : PolicyDocument}
    {layer : Layer} :
    ofDocument registry name kind document = .ok layer ↔
      (∀ id ∈ document.environmentIds, registry.environments.contains id = true) ∧
      (∀ plugin ∈ document.plugins, registry.plugins.contains plugin = true) ∧
      (∃ settings, checkRules registry document.rules.entries = .ok settings ∧
        .ofList settings = layer.rules) ∧
      ∃ meaning globals, checkCapabilities document.capabilities = .ok meaning ∧
        checkGlobals document.globals.entries = .ok globals ∧
        (⟨name, kind, .ofNames document.environmentIds, meaning.1, meaning.2,
          .ofNames document.plugins, .ofList globals, layer.rules⟩ : Layer) = layer := by
  rw [ofDocument_eq_ok_iff]
  constructor
  · rintro ⟨meaning, globals, settings, environments, capable, plugins, declared, bound, rfl⟩
    exact ⟨environments, plugins, ⟨settings, bound, rfl⟩, meaning, globals, capable, declared, rfl⟩
  · rintro ⟨environments, plugins, ⟨settings, bound, isRules⟩, meaning, globals, capable, declared,
      isLayer⟩
    exact ⟨meaning, globals, settings, environments, capable, plugins, declared, bound,
      isRules ▸ isLayer⟩

theorem checkRules_of_get? (same : ∀ name, other.get? name = registry.get? name)
    (entries : List (String × Value)) : checkRules other entries = checkRules registry entries := by
  induction entries with
  | nil => rfl
  | cons entry rest ih =>
      obtain ⟨name, value⟩ := entry
      simp only [checkRules, checkRule, same, ih]

theorem ofDocument_of_respells (configs : registry.RespellsConfigs other)
    (consistent : registry.Consistent) {document respelled : PolicyDocument}
    (once : registry.BindsOnce document.rules) (respells : document.Respells registry respelled)
    (name : String) (kind : LayerKind) (layer : Layer) :
    ofDocument registry name kind document = .ok layer ↔
      ofDocument other name kind respelled = .ok layer := by
  have rules := @checkRules_of_corresponds registry consistent _ _
    (respells.rules.corresponds consistent once) layer.rules
  have environments : other.environments = registry.environments := by rw [configs.others]
  rw [ofDocument_eq_ok_iff_rules, ofDocument_eq_ok_iff_rules, rules,
    checkRules_of_get? configs.get?_eq, environments]
  simp only [configs.contains_plugins]
  rw [respells.others]
  rfl

end Layer

/-! ## Expansion under other spellings -/

namespace Expansion

/--
Where one expansion succeeds another one finds documents with the same references that become
the same layers, for all references of a set that is closed under extending.
-/
structure Imitates (closed : String → Prop) (registry other : Registry)
    (sources otherSources : Sources) : Prop where
  presets : ∀ reference, Preset.find? other reference = Preset.find? registry reference
  documents : ∀ reference plugin source extended, closed reference →
    Target.Provides registry sources reference plugin source →
    source.document = .ok extended →
      (∀ listed ∈ extended.references, closed listed) ∧
      ∃ otherSource replaced, Target.Provides other otherSources reference plugin otherSource ∧
        otherSource.document = .ok replaced ∧ replaced.references = extended.references ∧
        ∀ own, Layer.ofDocument registry reference (Target.kindOf plugin) extended = .ok own →
          Layer.ofDocument other reference (Target.kindOf plugin) replaced = .ok own

theorem Expands.imitated {closed : String → Prop} {registry other : Registry}
    {sources otherSources : Sources}
    (imitates : Imitates closed registry other sources otherSources)
    {names references : List String} {layers : List Layer}
    (expands : Expands registry sources names references layers)
    (inside : ∀ reference ∈ references, closed reference) :
    Expands other otherSources names references layers := by
  induction expands with
  | nil => exact .nil
  | preset found _ ih =>
      rw [List.forall_mem_cons] at inside
      exact .preset ((imitates.presets _).trans found) (ih inside.2)
  | document provided parsed fresh _ passed _ ihBelow ihRest =>
      rw [List.forall_mem_cons] at inside
      obtain ⟨below, otherSource, replaced, otherProvided, otherParsed, sameReferences, becomes⟩ :=
        imitates.documents _ _ _ _ inside.1 provided parsed
      exact .document otherProvided otherParsed fresh (sameReferences ▸ ihBelow below)
        (becomes _ passed) (ihRest inside.2)

end Expansion

namespace Target

variable {registry other : Registry} {sources otherSources : Sources} {reference : String}
  {plugin : Option String}

theorem config?_eq (registry : Registry) (plugin config : String) :
    config? registry ⟨plugin, config⟩ =
      (registry.plugins.get? plugin).bind fun configs => configs.get? config := rfl

theorem rel_config? (configs : registry.RespellsConfigs other) (plugin config : String) :
    Option.Rel (fun value otherValue => Source.Respells registry (.value value) (.value otherValue))
      (config? registry ⟨plugin, config⟩) (config? other ⟨plugin, config⟩) := by
  have related := configs.configs plugin
  rw [config?_eq, config?_eq]
  generalize registry.plugins.get? plugin = own, other.plugins.get? plugin = its at related ⊢
  cases related with
  | none => exact .none
  | some each => exact each config

theorem Provides.respelled (configs : registry.RespellsConfigs other)
    (documents : sources.Respells registry otherSources) {source : Source}
    (provided : Provides registry sources reference plugin source) :
    ∃ otherSource, Provides other otherSources reference plugin otherSource ∧
      source.Respells registry otherSource := by
  cases provided with
  | @config owner config value whole found =>
      obtain ⟨otherValue, isOther, respells⟩ :=
        exists_right_of_rel (rel_config? configs owner config) found
      exact ⟨_, .config whole isOther, respells⟩
  | source notPreset plain found =>
      obtain ⟨otherSource, isOther, respells⟩ := exists_right_of_rel (documents reference) found
      exact ⟨_, .source notPreset plain isOther, respells⟩

theorem Provides.original (configs : registry.RespellsConfigs other)
    (documents : sources.Respells registry otherSources) {otherSource : Source}
    (provided : Provides other otherSources reference plugin otherSource) :
    ∃ source, Provides registry sources reference plugin source ∧
      source.Respells registry otherSource := by
  cases provided with
  | @config owner config value whole found =>
      obtain ⟨own, isOwn, respells⟩ := exists_left_of_rel (rel_config? configs owner config) found
      exact ⟨_, .config whole isOwn, respells⟩
  | source notPreset plain found =>
      obtain ⟨own, isOwn, respells⟩ := exists_left_of_rel (documents reference) found
      exact ⟨_, .source notPreset plain isOwn, respells⟩

end Target

/-! ## Resolution under other spellings -/

namespace Resolution

variable {registry other : Registry} {sources otherSources : Sources} {name : String}
  {document respelled : PolicyDocument} {overrides otherOverrides : Overrides}

def IsReached (registry : Registry) (sources : Sources) (name : String)
    (document : PolicyDocument) (reference : String) : Prop :=
  ∃ names current, Expansion.Path registry sources name document names current ∧
    reference ∈ current.references

theorem imitates_respelled (consistent : registry.Consistent)
    (once : ∀ part, InCascade registry sources name document overrides part →
      registry.BindsOnce part.rules)
    (configs : registry.RespellsConfigs other)
    (documents : sources.Respells registry otherSources) :
    Expansion.Imitates (IsReached registry sources name document) registry other sources
      otherSources := by
  refine ⟨fun reference => by rw [configs.others]; rfl, ?_⟩
  rintro reference plugin source extended ⟨names, current, path, listed⟩ provided parsed
  have extendedPath := path.extend listed provided parsed
  refine ⟨fun further isListed => ⟨_, extended, extendedPath, isListed⟩, ?_⟩
  obtain ⟨otherSource, otherProvided, respells⟩ := provided.respelled configs documents
  obtain ⟨replaced, otherParsed, replaces⟩ := respells.of_document parsed
  refine ⟨otherSource, replaced, otherProvided, otherParsed, replaces.references_eq, ?_⟩
  intro own passed
  exact (Layer.ofDocument_of_respells configs consistent (once _ (.reached extendedPath)) replaces
    _ _ own).mp passed

theorem imitates_original (consistent : registry.Consistent)
    (once : ∀ part, InCascade registry sources name document overrides part →
      registry.BindsOnce part.rules)
    (configs : registry.RespellsConfigs other)
    (documents : sources.Respells registry otherSources) :
    Expansion.Imitates (IsReached registry sources name document) other registry otherSources
      sources := by
  refine ⟨fun reference => by rw [configs.others]; rfl, ?_⟩
  rintro reference plugin otherSource replaced ⟨names, current, path, listed⟩ provided parsed
  obtain ⟨source, ownProvided, respells⟩ := provided.original configs documents
  obtain ⟨extended, ownParsed, replaces⟩ := respells.of_respelled parsed
  have extendedPath := path.extend listed ownProvided ownParsed
  rw [replaces.references_eq]
  refine ⟨fun further isListed => ⟨_, extended, extendedPath, isListed⟩, ?_⟩
  refine ⟨source, extended, ownProvided, ownParsed, rfl, ?_⟩
  intro own passed
  exact (Layer.ofDocument_of_respells configs consistent (once _ (.reached extendedPath)) replaces
    _ _ own).mpr passed

theorem expand_of_respells (consistent : registry.Consistent)
    (once : ∀ part, InCascade registry sources name document overrides part →
      registry.BindsOnce part.rules)
    (configs : registry.RespellsConfigs other)
    (documents : sources.Respells registry otherSources)
    (root : document.Respells registry respelled) (layers : List Layer) :
    Layer.expand registry sources name document = .ok layers ↔
      Layer.expand other otherSources name respelled = .ok layers := by
  have inside : ∀ reference ∈ document.references, IsReached registry sources name document
      reference := fun reference listed => ⟨_, document, .root, listed⟩
  have own := Layer.ofDocument_of_respells configs consistent (once _ (.reached .root)) root name
    .localOverride
  have inherited (layers : List Layer) :
      Expansion.ofReferences registry sources name [] document.references = .ok layers ↔
        Expansion.ofReferences other otherSources name [] document.references = .ok layers := by
    constructor
    · intro expanded
      exact Expansion.ok_of_expands ((Expansion.expands_of_ok expanded).imitated
        (imitates_respelled consistent once configs documents) inside) rfl
    · intro expanded
      exact Expansion.ok_of_expands ((Expansion.expands_of_ok expanded).imitated
        (imitates_original consistent once configs documents) inside) rfl
  simp only [Expansion.expand_eq_ok_iff, root.references_eq, inherited, own]

theorem layers_of_respells (consistent : registry.Consistent)
    (once : registry.BindsOnce overrides.rules) (configs : registry.RespellsConfigs other)
    (last : overrides.Respells registry otherOverrides) (layers : List Layer) :
    overrides.layers registry = .ok layers ↔ otherOverrides.layers other = .ok layers := by
  have corresponds := last.rules.corresponds consistent once
  have emptyTogether : otherOverrides.isEmpty = overrides.isEmpty := by
    have rules : otherOverrides.rules.isEmpty = overrides.rules.isEmpty :=
      Bool.eq_iff_iff.mpr corresponds.isEmpty_iff.symm
    rw [last.others]
    simp only [Overrides.isEmpty, rules]
  rw [Overrides.layers, Overrides.layers, emptyTogether]
  split
  · rfl
  · have own := Layer.ofDocument_of_respells configs consistent once last.document
      Overrides.layerName .localOverride
    cases passed : Layer.ofDocument registry Overrides.layerName .localOverride
        overrides.document with
    | ok layer => rw [(own layer).mp passed]
    | error error =>
        cases otherPassed : Layer.ofDocument other Overrides.layerName .localOverride
            otherOverrides.document with
        | ok layer => simp [(own layer).mpr otherPassed] at passed
        | error otherError => simp

theorem layerResolve_of_respells (configs : registry.RespellsConfigs other) (layers : List Layer)
    (policy : Policy) :
    Layer.resolve registry layers = .ok policy ↔ Layer.resolve other layers = .ok policy := by
  have environments : other.environments = registry.environments := by rw [configs.others]
  simp only [Layer.resolve_eq_ok_iff, Layer.isDeclared, Layer.finish, configs.get?_eq,
    environments]

/--
In a cascade in which no document binds a rule under two spellings, other spellings of the same
rules, in the root, in sources, in configurations of plugins and in the overrides, lead to the
same layers and the same policy, or to none.
-/
theorem resolve_ignores_spelling (reachable : registry.Reachable)
    (once : ∀ part, InCascade registry sources name document overrides part →
      registry.BindsOnce part.rules)
    (configs : registry.RespellsConfigs other)
    (documents : sources.Respells registry otherSources)
    (root : document.Respells registry respelled)
    (last : overrides.Respells registry otherOverrides) :
    (∀ layers, cascade registry sources name document overrides = .ok layers ↔
        cascade other otherSources name respelled otherOverrides = .ok layers) ∧
      ∀ resolution, resolve registry sources name document overrides = .ok resolution ↔
        resolve other otherSources name respelled otherOverrides = .ok resolution := by
  have consistent := reachable.consistent
  have sameCascade (layers : List Layer) :
      cascade registry sources name document overrides = .ok layers ↔
        cascade other otherSources name respelled otherOverrides = .ok layers := by
    simp only [cascade_eq_ok_iff, expand_of_respells consistent once configs documents root,
      layers_of_respells consistent (once _ .overrides) configs last]
  refine ⟨sameCascade, fun resolution => ?_⟩
  simp only [resolve_eq_ok_iff, sameCascade, layerResolve_of_respells configs]

def styleRegistry (spelling : String) : Registry :=
  { (Registry.empty.add none Rules.StatementTerminator.rule).add (some "house")
      Rules.QuoteStyle.rule with
    plugins := (∅ : Dictionary (Dictionary Value)).insert "house"
      ((∅ : Dictionary Value).insert "strict"
        (.object [("rules", .object [(spelling, .string "error")])])) }

def bindingRules (spelling : String) : Dictionary Value :=
  (∅ : Dictionary Value).insert spelling (.string "warn")

theorem bindsOnce_single (registry : Registry) (spelling : String) (setting : Value) :
    registry.BindsOnce ((∅ : Dictionary Value).insert spelling setting) := by
  intro registered _ first isFirst second isSecond _ _
  rw [List.mem_singleton.mp isFirst, List.mem_singleton.mp isSecond]

theorem respells_single {registry : Registry} {spelling other : String}
    (same : registry.SameRule spelling other) (setting : Value) :
    registry.Respells ((∅ : Dictionary Value).insert spelling setting)
      ((∅ : Dictionary Value).insert other setting) := by
  refine ⟨fun _ => other, fun key isKey => ?_, rfl⟩
  rw [List.mem_singleton.mp isKey]
  exact same

/-- Aliases in the root, in a configuration of a plugin and in the overrides, or ids there. -/
theorem resolve_aliases_like_ids :
    let document (spelling : String) : PolicyDocument :=
      { PolicyDocument.empty with
        extending := some (.one "plugin:house/strict"), rules := bindingRules spelling }
    let overrides (spelling : String) : Overrides := ⟨[], ∅, bindingRules spelling⟩
    (styleRegistry "house/quotes").Reachable ∧
      ∃ resolution,
        resolve (styleRegistry "house/quotes") ∅ "root" (document "semi") (overrides "semi") =
          .ok resolution ∧
        resolve (styleRegistry "house/quote-style") ∅ "root" (document "statement-terminator")
          (overrides "statement-terminator") = .ok resolution := by
  intro document overrides
  have reachable : (styleRegistry "house/quotes").Reachable := by
    exact .registerPlugin (.register .empty
      (show Registry.empty.register Rules.StatementTerminator.rule = _ from rfl))
      (show Registry.registerPlugin _ ⟨"house", [Rules.QuoteStyle.rule],
        (∅ : Dictionary Value).insert "strict"
          (.object [("rules", .object [("house/quotes", .string "error")])]), ∅⟩ = _ from rfl)
  have sameQuotes : (styleRegistry "house/quotes").SameRule "house/quotes" "house/quote-style" :=
    .inr ⟨.of (some "house") Rules.QuoteStyle.rule, List.mem_cons_of_mem _ List.mem_cons_self,
      by decide, by decide⟩
  have sameSemi : (styleRegistry "house/quotes").SameRule "semi" "statement-terminator" :=
    .inr ⟨.of none Rules.StatementTerminator.rule, List.mem_cons_self, by decide, by decide⟩
  let strict (spelling : String) : PolicyDocument :=
    { PolicyDocument.empty with
      rules := (∅ : Dictionary Value).insert spelling (.string "error") }
  have parsed (spelling : String) : (Source.value (.object [("rules",
      .object [(spelling, .string "error")])])).document = .ok (strict spelling) := rfl
  have configs : (styleRegistry "house/quotes").RespellsConfigs
      (styleRegistry "house/quote-style") := by
    refine ⟨rfl, fun plugin => ?_⟩
    by_cases isHouse : "house" = plugin
    · subst isHouse
      refine .some fun config => ?_
      by_cases isStrict : "strict" = config
      · subst isStrict
        exact .some (.parsed (parsed _) (parsed _) ⟨respells_single sameQuotes _, rfl⟩)
      · simp [isStrict]
    · simp [styleRegistry, isHouse]
  have provided : Target.Provides (styleRegistry "house/quotes") ∅
      (PluginReference.text ⟨"house", "strict"⟩) (some "house") _ :=
    .config (by decide) rfl
  have reached (names : List String) (part : PolicyDocument) (path : Expansion.Path
      (styleRegistry "house/quotes") ∅ "root" (document "semi") names part) :
      part = document "semi" ∨ part = strict "house/quotes" := by
    induction path with
    | root => exact .inl rfl
    | extend before listed isProvided isParsed ih =>
        rcases ih with rfl | rfl
        · rw [List.mem_singleton.mp listed] at isProvided
          obtain ⟨-, rfl⟩ := provided.unique isProvided
          exact .inr (Except.ok.inj (isParsed.symm.trans (parsed _)))
        · exact absurd listed List.not_mem_nil
  have once : ∀ part, InCascade (styleRegistry "house/quotes") ∅ "root" (document "semi")
      (overrides "semi") part → (styleRegistry "house/quotes").BindsOnce part.rules := by
    intro part isPart
    cases isPart with
    | reached path =>
        rcases reached _ _ path with rfl | rfl
        · exact bindsOnce_single _ _ _
        · exact bindsOnce_single _ _ _
    | overrides => exact bindsOnce_single _ _ _
  have root : (document "semi").Respells (styleRegistry "house/quotes")
      (document "statement-terminator") := ⟨respells_single sameSemi _, rfl⟩
  have last : (overrides "semi").Respells (styleRegistry "house/quotes")
      (overrides "statement-terminator") := ⟨respells_single sameSemi _, rfl⟩
  obtain ⟨-, same⟩ := @resolve_ignores_spelling _ _ ∅ ∅ "root" _ _ _ _ reachable once configs
    (fun reference => .none) root last
  have expands : Expansion.Expands (styleRegistry "house/quotes") ∅ ["root"]
      [PluginReference.text ⟨"house", "strict"⟩] _ :=
    .document provided (parsed _) (by decide) .nil rfl .nil
  have succeeds : ∃ resolution, resolve (styleRegistry "house/quotes") ∅ "root" (document "semi")
      (overrides "semi") = .ok resolution := by
    have listed : (document "semi").references = [PluginReference.text ⟨"house", "strict"⟩] := rfl
    rw [resolve, cascade, Layer.expand_eq, listed, Expansion.ok_of_expands expands rfl]
    exact ⟨_, rfl⟩
  obtain ⟨resolution, resolved⟩ := succeeds
  exact ⟨reachable, resolution, resolved, (same resolution).mp resolved⟩

end Resolution

end ScriptLint
