import ScriptLint.Cascade.Layer
import ScriptLint.Proofs.Dictionary.Lookup
import ScriptLint.Proofs.Value.Decoder

/-!
# Documents that pass their check

When a document becomes a layer, what the layer then holds, and which faults a document
can have by itself.  Whether it passes does not depend on the name and the kind
that its layer is to have.
-/

namespace ScriptLint

/-! ## Rule settings -/

theorem RuleSetting.options_of_resolve {severity : Value} {options : List Value}
    {setting : RuleSetting} (given : options ≠ [])
    (resolved : resolve (.array (severity :: options)) = .ok setting) :
    setting.options = some options := by
  simp only [resolve, SettingShape.of, map_eq_ok_iff] at resolved
  obtain ⟨found, -, rfl⟩ := resolved
  cases options with
  | nil => exact absurd rfl given
  | cons first rest => rfl

namespace PolicyDocument

def environmentIds (document : PolicyDocument) : List String :=
  (document.environments.map EnvironmentsDeclaration.ids).getD []

end PolicyDocument

/-- Among the bindings is one under a spelling of the rule that has the id. -/
def Registry.Binds (registry : Registry) (rules : Dictionary Value) (spelling id : String) : Prop :=
  rules.contains spelling = true ∧ (registry.get? spelling).map RegisteredRule.id = some id

def ConfigFault.isOfDocument : ConfigFault → Bool
  | .unresolvedExtends _ => false
  | .extendsCycle _ => false
  | .parse _ => false
  | _ => true

namespace Layer

variable {registry : Registry} {name : String} {kind : LayerKind} {document : PolicyDocument}

/-! ## The parts of a document -/

theorem checkKnown_eq_ok_iff {isKnown : String → Bool} {fault : String → ConfigFault}
    {names : List String} {known : NameSet} :
    checkKnown isKnown fault names = .ok known ↔
      (∀ name ∈ names, isKnown name = true) ∧ NameSet.ofNames names = known := by
  simp only [checkKnown]
  split
  · rename_i unknown found
    have member := List.mem_of_find?_eq_some found
    have notKnown : isKnown unknown = false := by simpa using List.find?_some found
    simp only [reduceCtorEq, false_iff, not_and]
    intro allKnown
    exact absurd (allKnown unknown member) (by simp [notKnown])
  · rename_i none
    have allKnown : ∀ name ∈ names, isKnown name = true := by simpa using none
    rw [Except.ok.injEq]
    exact (and_iff_right allKnown).symm

theorem checkKnown_fault {isKnown : String → Bool} {makeFault : String → ConfigFault}
    {names : List String} {fault : ConfigFault}
    (failed : checkKnown isKnown makeFault names = .error fault) :
    ∃ name, fault = makeFault name := by
  simp only [checkKnown] at failed
  split at failed
  · rename_i unknown found
    exact ⟨unknown, by simpa using failed.symm⟩
  · cases failed

theorem checkCapabilities_fault {declaration : Option CapabilitiesDeclaration}
    {fault : ConfigFault} (failed : checkCapabilities declaration = .error fault) :
    fault.isOfDocument = true := by
  unfold checkCapabilities at failed
  split at failed
  · cases failed
  · split at failed <;> cases failed
    rfl

theorem checkGlobals_fault {entries : List (String × GlobalDeclaration)} {fault : ConfigFault}
    (failed : checkGlobals entries = .error fault) : fault.isOfDocument = true := by
  induction entries with
  | nil => cases failed
  | cons entry rest ih =>
      rw [checkGlobals] at failed
      split at failed
      · cases failed
        rfl
      · exact ih (map_eq_error_iff.mp failed)

theorem checkGlobals_ok {entries : List (String × GlobalDeclaration)}
    {globals : List (String × AccessMode)} (passed : checkGlobals entries = .ok globals) :
    (∀ name declaration, (name, declaration) ∈ entries →
        ∃ mode, declaration.access = .ok mode ∧ (name, mode) ∈ globals) ∧
      ∀ name mode, (name, mode) ∈ globals →
        ∃ declaration, (name, declaration) ∈ entries ∧ declaration.access = .ok mode := by
  induction entries generalizing globals with
  | nil =>
      cases passed
      simp
  | cons entry rest ih =>
      obtain ⟨ownName, own⟩ := entry
      rw [checkGlobals] at passed
      cases access : own.access with
      | error cause => simp [access] at passed
      | ok ownMode =>
          rw [access] at passed
          obtain ⟨others, restPassed, rfl⟩ := map_eq_ok_iff.mp passed
          obtain ⟨covered, exact⟩ := ih restPassed
          constructor
          · intro name declaration member
            rcases List.mem_cons.mp member with same | inRest
            · cases same
              exact ⟨ownMode, access, List.mem_cons_self⟩
            · obtain ⟨mode, meant, inOthers⟩ := covered name declaration inRest
              exact ⟨mode, meant, List.mem_cons_of_mem _ inOthers⟩
          · intro name mode member
            rcases List.mem_cons.mp member with same | inOthers
            · cases same
              exact ⟨own, List.mem_cons_self, access⟩
            · obtain ⟨declaration, inRest, meant⟩ := exact name mode inOthers
              exact ⟨declaration, List.mem_cons_of_mem _ inRest, meant⟩

theorem checkRule_eq_ok_iff {value : Value} {result : String × RuleSetting} :
    checkRule registry name value = .ok result ↔
      ∃ registered setting, registry.get? name = some registered ∧
        RuleSetting.resolve value = .ok setting ∧
        (∀ options, setting.options = some options →
          registered.rule.validate options = .ok ()) ∧
        (registered.id, setting) = result := by
  unfold checkRule
  cases registry.get? name with
  | none => simp
  | some registered =>
      cases RuleSetting.resolve value with
      | error cause => simp
      | ok setting =>
          cases given : setting.options with
          | none => simp [given]
          | some options =>
              cases accepted : registered.rule.validate options with
              | error cause => simp [given, accepted]
              | ok _ => simp [given, accepted]

theorem checkRule_fault {value : Value} {fault : ConfigFault}
    (failed : checkRule registry name value = .error fault) : fault.isOfDocument = true := by
  unfold checkRule at failed
  split at failed
  · cases failed
    rfl
  · split at failed
    · cases failed
      rfl
    · split at failed
      · cases failed
      · split at failed <;> cases failed
        rfl

theorem checkRules_fault {entries : List (String × Value)} {fault : ConfigFault}
    (failed : checkRules registry entries = .error fault) : fault.isOfDocument = true := by
  induction entries with
  | nil => cases failed
  | cons entry rest ih =>
      rw [checkRules] at failed
      split at failed
      · rename_i cause own
        cases failed
        exact checkRule_fault own
      · exact ih (map_eq_error_iff.mp failed)

theorem checkRules_ok {entries : List (String × Value)} {settings : List (String × RuleSetting)}
    (passed : checkRules registry entries = .ok settings) :
    (∀ entry ∈ entries, ∃ setting ∈ settings,
        checkRule registry entry.1 entry.2 = .ok setting) ∧
      ∀ setting ∈ settings, ∃ entry ∈ entries,
        checkRule registry entry.1 entry.2 = .ok setting := by
  induction entries generalizing settings with
  | nil =>
      cases passed
      simp
  | cons entry rest ih =>
      rw [checkRules] at passed
      split at passed
      · cases passed
      · rename_i own ownPassed
        obtain ⟨others, restPassed, rfl⟩ := map_eq_ok_iff.mp passed
        obtain ⟨covered, exact⟩ := ih restPassed
        constructor
        · intro other member
          rcases List.mem_cons.mp member with rfl | inRest
          · exact ⟨own, List.mem_cons_self, ownPassed⟩
          · obtain ⟨setting, inOthers, found⟩ := covered other inRest
            exact ⟨setting, List.mem_cons_of_mem own inOthers, found⟩
        · intro setting member
          rcases List.mem_cons.mp member with rfl | inOthers
          · exact ⟨entry, List.mem_cons_self, ownPassed⟩
          · obtain ⟨other, inRest, found⟩ := exact setting inOthers
            exact ⟨other, List.mem_cons_of_mem entry inRest, found⟩

theorem mem_iff_of_checkRules {rules : Dictionary Value} {settings : List (String × RuleSetting)}
    (passed : checkRules registry rules.entries = .ok settings) {result : String × RuleSetting} :
    result ∈ settings ↔ ∃ spelling value, rules.get? spelling = some value ∧
      checkRule registry spelling value = .ok result := by
  obtain ⟨covered, exact⟩ := checkRules_ok passed
  constructor
  · intro member
    obtain ⟨⟨spelling, value⟩, inRules, own⟩ := exact result member
    exact ⟨spelling, value, Dictionary.get?_eq_some_iff.mpr inRules, own⟩
  · rintro ⟨spelling, value, bound, own⟩
    obtain ⟨setting, member, alsoOwn⟩ := covered (spelling, value) (Dictionary.mem_of_get? bound)
    cases own.symm.trans alsoOwn
    exact member

/-! ## Whole documents -/

theorem ofDocument_eq_ok_iff {layer : Layer} :
    ofDocument registry name kind document = .ok layer ↔
      ∃ meaning globals rules,
        (∀ id ∈ document.environmentIds, registry.environments.contains id = true) ∧
        checkCapabilities document.capabilities = .ok meaning ∧
        (∀ plugin ∈ document.plugins, registry.plugins.contains plugin = true) ∧
        checkGlobals document.globals.entries = .ok globals ∧
        checkRules registry document.rules.entries = .ok rules ∧
        (⟨name, kind, .ofNames document.environmentIds, meaning.1, meaning.2,
          .ofNames document.plugins, .ofList globals, .ofList rules⟩ : Layer) = layer := by
  have unwrapped : ofDocument registry name kind document = .ok layer ↔
      checkDocument registry name kind document = .ok layer := by
    unfold ofDocument
    cases checkDocument registry name kind document <;> simp
  simp only [unwrapped, checkDocument, bind_eq_ok_iff, checkKnown_eq_ok_iff]
  constructor
  · rintro ⟨_, ⟨environments, rfl⟩, meaning, capable, _, ⟨plugins, rfl⟩, globals, declared,
      rules, bound, same⟩
    exact ⟨meaning, globals, rules, environments, capable, plugins, declared, bound,
      Except.ok.inj same⟩
  · rintro ⟨meaning, globals, rules, environments, capable, plugins, declared, bound, rfl⟩
    exact ⟨_, ⟨environments, rfl⟩, meaning, capable, _, ⟨plugins, rfl⟩, globals, declared,
      rules, bound, rfl⟩

theorem globals_of_ofDocument {layer : Layer}
    (passed : ofDocument registry name kind document = .ok layer) :
    (∀ global declaration, document.globals.get? global = some declaration →
        ∃ mode, declaration.access = .ok mode ∧ layer.globals.get? global = some mode) ∧
      ∀ global, document.globals.get? global = none → layer.globals.get? global = none := by
  obtain ⟨meaning, globals, rules, -, -, -, declared, -, rfl⟩ := ofDocument_eq_ok_iff.mp passed
  obtain ⟨covered, exact⟩ := checkGlobals_ok declared
  constructor
  · intro global declaration found
    obtain ⟨mode, meant, member⟩ := covered global declaration (Dictionary.mem_of_get? found)
    refine ⟨mode, meant, Dictionary.get?_ofList_of_mem member ?_⟩
    intro other alsoMember
    obtain ⟨again, inDocument, alsoMeant⟩ := exact global other alsoMember
    cases found.symm.trans (Dictionary.get?_eq_some_iff.mpr inDocument)
    exact Except.ok.inj (alsoMeant.symm.trans meant)
  · intro global absent
    apply Dictionary.get?_ofList_eq_none
    intro mode member
    obtain ⟨declaration, inDocument, -⟩ := exact global mode member
    cases absent.symm.trans (Dictionary.get?_eq_some_iff.mpr inDocument)

theorem rules_of_ofDocument {layer : Layer}
    (passed : ofDocument registry name kind document = .ok layer) :
    (∀ spelling, document.rules.contains spelling = true →
        ∃ id, registry.Binds document.rules spelling id) ∧
      (∀ spelling id, registry.Binds document.rules spelling id →
        (∀ other, registry.Binds document.rules other id → other = spelling) →
          ∃ value setting, document.rules.get? spelling = some value ∧
            RuleSetting.resolve value = .ok setting ∧ layer.rules.get? id = some setting) ∧
      ∀ id, (∀ spelling, ¬ registry.Binds document.rules spelling id) →
        layer.rules.get? id = none := by
  obtain ⟨meaning, globals, rules, -, -, -, -, checked, rfl⟩ := ofDocument_eq_ok_iff.mp passed
  have origin (id : String) (setting : RuleSetting) (member : (id, setting) ∈ rules) :
      ∃ spelling value, document.rules.get? spelling = some value ∧
        RuleSetting.resolve value = .ok setting ∧
        registry.Binds document.rules spelling id := by
    obtain ⟨spelling, value, found, own⟩ := (mem_iff_of_checkRules checked).mp member
    obtain ⟨registered, _, known, resolved, -, same⟩ := checkRule_eq_ok_iff.mp own
    cases same
    exact ⟨spelling, value, found, resolved, by simp [Dictionary.contains, found], by simp [known]⟩
  have outcome (spelling : String) (binds : document.rules.contains spelling = true) :
      ∃ value registered setting, document.rules.get? spelling = some value ∧
        registry.get? spelling = some registered ∧ RuleSetting.resolve value = .ok setting ∧
        (registered.id, setting) ∈ rules := by
    obtain ⟨value, found⟩ := Option.isSome_iff_exists.mp binds
    obtain ⟨_, member, own⟩ := (checkRules_ok checked).1 _ (Dictionary.mem_of_get? found)
    obtain ⟨registered, setting, known, resolved, -, rfl⟩ := checkRule_eq_ok_iff.mp own
    exact ⟨value, registered, setting, found, known, resolved, member⟩
  refine ⟨?_, ?_, ?_⟩
  · intro spelling binds
    obtain ⟨value, registered, setting, -, known, -⟩ := outcome spelling binds
    exact ⟨registered.id, binds, by simp [known]⟩
  · intro spelling id binds once
    obtain ⟨value, registered, setting, found, known, resolved, member⟩ := outcome spelling binds.1
    obtain rfl : registered.id = id := by simpa [known] using binds.2
    refine ⟨value, setting, found, resolved, Dictionary.get?_ofList_of_mem member ?_⟩
    intro other alsoMember
    obtain ⟨again, _, alsoFound, alsoResolved, alsoBinds⟩ := origin _ other alsoMember
    obtain rfl := once again alsoBinds
    cases found.symm.trans alsoFound
    exact Except.ok.inj (alsoResolved.symm.trans resolved)
  · intro id unbound
    apply Dictionary.get?_ofList_eq_none
    intro setting member
    obtain ⟨spelling, _, -, -, binds⟩ := origin id setting member
    exact unbound spelling binds

theorem ofDocument_error {error : ConfigError}
    (failed : ofDocument registry name kind document = .error error) :
    error.fault.isOfDocument = true := by
  have checkFailed : checkDocument registry name kind document = .error error.fault := by
    unfold ofDocument at failed
    split at failed
    · rename_i fault found
      cases failed
      exact found
    · cases failed
  simp only [checkDocument, bind_eq_error_iff] at checkFailed
  rcases checkFailed with own | ⟨_, -, own | ⟨_, -, own | ⟨_, -, own | ⟨_, -, own | ⟨_, -, own⟩⟩⟩⟩⟩
  · obtain ⟨id, same⟩ := checkKnown_fault own
    simp [same, ConfigFault.isOfDocument]
  · exact checkCapabilities_fault own
  · obtain ⟨plugin, same⟩ := checkKnown_fault own
    simp [same, ConfigFault.isOfDocument]
  · exact checkGlobals_fault own
  · exact checkRules_fault own
  · cases own

end Layer

/-- A document passes its check, under every name and in every kind of layer. -/
def PolicyDocument.Passes (registry : Registry) (document : PolicyDocument) : Prop :=
  ∀ name kind, ∃ layer, Layer.ofDocument registry name kind document = .ok layer

theorem PolicyDocument.passes_of_ok {registry : Registry} {name : String} {kind : LayerKind}
    {document : PolicyDocument} {layer : Layer}
    (passed : Layer.ofDocument registry name kind document = .ok layer) :
    document.Passes registry := by
  intro otherName otherKind
  obtain ⟨meaning, globals, rules, environments, capable, plugins, declared, bound, -⟩ :=
    Layer.ofDocument_eq_ok_iff.mp passed
  exact ⟨_, Layer.ofDocument_eq_ok_iff.mpr
    ⟨meaning, globals, rules, environments, capable, plugins, declared, bound, rfl⟩⟩

end ScriptLint
