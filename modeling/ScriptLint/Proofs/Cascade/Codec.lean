import ScriptLint.Cascade.Source
import ScriptLint.Policy
import ScriptLint.Proofs.Value.Canonical
import ScriptLint.Proofs.Value.Record

/-!
# Documents and policies in canonical form

A document that was parsed is written with one name for each field, and parses from what
is written.  The second names of fields and the order of fields do not count.  Every
policy decodes from its encoded form.
-/

namespace ScriptLint

open Record (valuesOf)

/-! ## Values with several forms -/

theorem Decoder.list_text (texts : List String) :
    Decoder.list Decoder.text (.array (texts.map .string)) = .ok texts :=
  Decoder.list_encoded fun _ _ => rfl

theorem EnvironmentsDeclaration.decode_encode (declaration : EnvironmentsDeclaration) :
    decode declaration.encode = .ok declaration := by
  cases declaration with
  | list ids =>
      exact Decoder.either_of_first (map_eq_ok_iff.mpr ⟨ids, Decoder.list_text ids, rfl⟩)
  | table switches =>
      have decoded : Decoder.dictionary Decoder.flag (.object (switches.entries.map fun entry =>
          (entry.1, .bool entry.2))) = .ok switches := Decoder.dictionary_encoded fun _ _ => rfl
      exact Decoder.either_of_second rfl (map_eq_ok_iff.mpr ⟨switches, decoded, rfl⟩)

theorem Extends.decode_encode (extending : Extends) :
    decode extending.encode = .ok extending := by
  cases extending with
  | one reference => rfl
  | many references =>
      exact Decoder.either_of_second rfl
        (map_eq_ok_iff.mpr ⟨references, Decoder.list_text references, rfl⟩)

theorem GlobalDeclaration.decode_encode (declaration : GlobalDeclaration) :
    decode declaration.encode = .ok declaration := by
  cases declaration <;> rfl

def VersionDeclaration.Fits : VersionDeclaration → Prop
  | .number edition => edition < 0x10000
  | .name _ => True

theorem VersionDeclaration.decode_yields : decode.Yields Fits :=
  .either ((Decoder.natural_yields _ _).map fun _ small => small)
    (.map (fun _ _ _ => trivial : Decoder.text.Yields fun _ => True) fun _ _ => trivial)

theorem VersionDeclaration.decode_encode {version : VersionDeclaration} (fits : version.Fits) :
    decode version.encode = .ok version := by
  cases version with
  | number edition =>
      exact Decoder.either_of_first
        (map_eq_ok_iff.mpr ⟨edition, Decoder.natural_int "u16" fits, rfl⟩)
  | name text => rfl

/-! ## Optional fields -/

@[simp] theorem valuesOf_optionalField {α : Type} (names : List String) (name : String)
    (encode : α → Value) (value : Option α) :
    valuesOf names (optionalField name encode value) =
      if name ∈ names then (value.map encode).toList else [] := by
  cases value <;> simp [optionalField]

theorem forall_mem_optionalField {α : Type} {name : String} {names : List String}
    {encode : α → Value} {value : Option α} (named : name ∈ names) :
    ∀ field ∈ optionalField name encode value, field.1 ∈ names := by
  cases value <;> simp [optionalField, named]

theorem Record.ofFields_optional {α : Type} {name : String} {names : List String}
    {decode : Decoder α} {fields : List (String × Value)} (encode : α → Value) (value : Option α)
    (written : valuesOf names fields = (value.map encode).toList)
    (each : ∀ present ∈ value, encode present ≠ .null ∧ decode (encode present) = .ok present) :
    (Record.spelled name names decode.optional none).ofFields fields = .ok value := by
  rw [ofFields_spelled_eq_ok_iff, written]
  cases value with
  | none => exact .inl ⟨rfl, rfl⟩
  | some present =>
      obtain ⟨notNull, decoded⟩ := each present rfl
      exact .inr ⟨_, rfl, Decoder.optional_eq_ok_iff.mpr (.inr ⟨notNull, present, decoded, rfl⟩)⟩

@[simp] theorem valuesOf_unless (names : List String) (name : String) (given : Value)
    (empty : Prop) [Decidable empty] :
    valuesOf names (if empty then [] else [(name, given)]) =
      if name ∈ names then (if empty then [] else [given]) else [] := by
  by_cases isEmpty : empty <;> simp [isEmpty]

theorem Record.ofFields_unless {α : Type} {name : String} {names : List String}
    {decode : Decoder α} {fields : List (String × Value)} {value missing : α} (given : Value)
    (empty : Prop) [Decidable empty]
    (written : valuesOf names fields = if empty then [] else [given])
    (isMissing : empty → missing = value) (decoded : decode given = .ok value) :
    (Record.spelled name names decode missing).ofFields fields = .ok value := by
  rw [ofFields_spelled_eq_ok_iff, written]
  by_cases isEmpty : empty
  · rw [if_pos isEmpty]
    exact .inl ⟨rfl, isMissing isEmpty⟩
  · rw [if_neg isEmpty]
    exact .inr ⟨given, rfl, decoded⟩

namespace CapabilitiesDeclaration

def Fits (capabilities : CapabilitiesDeclaration) : Prop :=
  ∀ version ∈ capabilities.syntaxVersion, version.Fits

theorem decode_yields : decode.Yields Fits :=
  Record.Yields.decodeStrict (.seq (.seq
    (.map (.spelled VersionDeclaration.decode_yields.optional (by simp))
      fun _ fits _ _ _ _ => fits) (.trivial _)) (.trivial _))

def fullNames : List String := ["syntaxVersion", "sourceType", "moduleMode"]

theorem encode_fields (capabilities : CapabilitiesDeclaration) :
    ∃ fields, capabilities.encode = .object fields ∧ ∀ field ∈ fields, field.1 ∈ fullNames := by
  refine ⟨_, rfl, ?_⟩
  simp only [List.forall_mem_append]
  exact ⟨⟨forall_mem_optionalField (by decide), forall_mem_optionalField (by decide)⟩,
    forall_mem_optionalField (by decide)⟩

theorem decode_encode {capabilities : CapabilitiesDeclaration} (fits : capabilities.Fits) :
    decode capabilities.encode = .ok capabilities := by
  obtain ⟨fields, same, named⟩ := capabilities.encode_fields
  have accepted : ∀ name ∈ fullNames, name ∈ record.spellings.flatten := by decide
  rw [same, decode, Record.decodeStrict_object_eq_ok_iff]
  refine ⟨?_, fun field member => accepted field.1 (named field member)⟩
  cases same
  refine Record.ofFields_seq (Record.ofFields_seq (Record.ofFields_map
    (Record.ofFields_optional VersionDeclaration.encode capabilities.syntaxVersion
      (by simp) fun version given => ?_))
    (Record.ofFields_optional .string capabilities.sourceType
      (by simp) fun _ _ => ⟨nofun, rfl⟩))
    (Record.ofFields_optional .bool capabilities.moduleMode
      (by simp) fun _ _ => ⟨nofun, rfl⟩)
  refine ⟨?_, VersionDeclaration.decode_encode (fits version given)⟩
  cases version <;> nofun

end CapabilitiesDeclaration

namespace PolicyDocument

def fullNames : List String :=
  ["$schema", "environments", "extends", "parserCapabilities", "plugins", "globals", "rules"]

def HasFullNames (value : Value) : Prop :=
  ∃ fields, value = .object fields ∧ (∀ field ∈ fields, field.1 ∈ fullNames) ∧
    ∀ capabilities, ("parserCapabilities", capabilities) ∈ fields →
      ∃ inner, capabilities = .object inner ∧
        ∀ field ∈ inner, field.1 ∈ CapabilitiesDeclaration.fullNames

theorem hasFullNames_encode (document : PolicyDocument) : HasFullNames document.encode := by
  refine ⟨_, rfl, ?_, fun capabilities member => ?_⟩
  · simp only [List.forall_mem_append]
    refine ⟨⟨⟨⟨⟨⟨forall_mem_optionalField (by decide), forall_mem_optionalField (by decide)⟩,
      forall_mem_optionalField (by decide)⟩, forall_mem_optionalField (by decide)⟩, ?_⟩, ?_⟩, ?_⟩
    all_goals split <;> simp [fullNames]
  · have listed : capabilities ∈ valuesOf ["parserCapabilities"] _ :=
      List.mem_map.mpr ⟨_, List.mem_filter.mpr ⟨member, by simp⟩, rfl⟩
    simp only [Record.valuesOf_append, valuesOf_optionalField, valuesOf_unless] at listed
    obtain ⟨own, -, rfl⟩ : ∃ own, document.capabilities = some own ∧ own.encode = capabilities := by
      simpa using listed
    exact own.encode_fields

/-- What decoding guarantees of a document. -/
def Fits (document : PolicyDocument) : Prop :=
  ∀ capabilities ∈ document.capabilities, capabilities.Fits

theorem decode_yields : decode.Yields Fits :=
  Record.Yields.decodeStrict (.seq (.seq (.seq (.seq (.seq (.seq (.map (.trivial _)
    fun _ _ _ _ _ _ _ fits _ _ _ _ _ _ => fits) (.trivial _)) (.trivial _))
    (.spelled CapabilitiesDeclaration.decode_yields.optional (by simp))) (.trivial _))
    (.trivial _)) (.trivial _))

theorem decode_encode {document : PolicyDocument} (fits : document.Fits) :
    decode document.encode = .ok document := by
  have accepted : ∀ name ∈ fullNames, name ∈ record.spellings.flatten := by decide
  have globals : Decoder.dictionary GlobalDeclaration.decode (.object
      (document.globals.entries.map fun entry => (entry.1, entry.2.encode))) =
        .ok document.globals :=
    Decoder.dictionary_encoded fun entry _ => entry.2.decode_encode
  have rules : Decoder.dictionary Decoder.any (.object document.rules.entries) =
      .ok document.rules := by
    have encoded := @Decoder.dictionary_encoded _ Decoder.any id document.rules fun _ _ => rfl
    simpa using encoded
  obtain ⟨fields, same, named, -⟩ := document.hasFullNames_encode
  rw [same, decode, Record.decodeStrict_object_eq_ok_iff]
  refine ⟨?_, fun field member => accepted field.1 (named field member)⟩
  cases same
  refine Record.ofFields_seq (Record.ofFields_seq (Record.ofFields_seq (Record.ofFields_seq
    (Record.ofFields_seq (Record.ofFields_seq (Record.ofFields_map
    (Record.ofFields_optional .string document.schema (by simp) fun _ _ => ⟨nofun, rfl⟩))
    (Record.ofFields_optional EnvironmentsDeclaration.encode document.environments (by simp)
      fun declaration _ => ⟨?_, declaration.decode_encode⟩))
    (Record.ofFields_optional Extends.encode document.extending (by simp)
      fun extending _ => ⟨?_, extending.decode_encode⟩))
    (Record.ofFields_optional CapabilitiesDeclaration.encode document.capabilities (by simp)
      fun capabilities given =>
        ⟨nofun, CapabilitiesDeclaration.decode_encode (fits capabilities given)⟩))
    (Record.ofFields_unless (.array (document.plugins.map .string)) document.plugins.isEmpty
      (by simp) (fun isEmpty => (List.isEmpty_iff.mp isEmpty).symm)
      (Decoder.list_text document.plugins)))
    (Record.ofFields_unless _ document.globals.isEmpty (by simp)
      Dictionary.eq_empty_of_isEmpty globals))
    (Record.ofFields_unless _ document.rules.isEmpty (by simp)
      Dictionary.eq_empty_of_isEmpty rules)
  · cases declaration <;> nofun
  · cases extending <;> nofun

theorem normalized_normalized (document : PolicyDocument) :
    document.normalized.normalized = document.normalized := by
  have settled (setting : Value) := Value.isSettled_finite_canonical setting
  simp [normalized, Dictionary.map, Function.comp_def, (settled _).finite, (settled _).canonical]

theorem ofValue_encode {value : Value} {document : PolicyDocument}
    (parsed : ofValue value = .ok document) : ofValue document.encode = .ok document := by
  unfold ofValue at parsed
  split at parsed
  · cases parsed
  · rename_i own decoded
    cases parsed
    have fits : own.normalized.Fits := decode_yields value own decoded
    rw [ofValue, decode_encode fits]
    simp [normalized_normalized]

end PolicyDocument

/-! ## Renaming -/

namespace CapabilitiesDeclaration

def fullName (name : String) : String :=
  if name = "ecmaVersion" then "syntaxVersion" else name

inductive Renames : Value → Value → Prop
  | refl (value : Value) : Renames value value
  | object {fields others : List (String × Value)}
      (renames : Record.Renames fullName (fun _ own other => other = own) fields others) :
      Renames (.object fields) (.object others)

theorem fullName_mem_iff : ∀ names ∈ record.spellings, ∀ name,
    fullName name ∈ names ↔ name ∈ names := by
  have spellings : record.spellings =
      [["ecmaVersion", "syntaxVersion"], ["sourceType"], ["moduleMode"]] := rfl
  intro names isNames name
  by_cases renamed : name = "ecmaVersion"
  · subst renamed
    revert names
    rw [spellings]
    decide
  · rw [fullName, if_neg renamed]

theorem decode_of_renames {value other : Value} (renames : Renames value other)
    {capabilities : CapabilitiesDeclaration} (decoded : decode value = .ok capabilities) :
    decode other = .ok capabilities := by
  cases renames with
  | refl => exact decoded
  | object renames =>
      have follows {α : Type} {name : String} {names : List String} {decode : Decoder α}
          {value : α} (isField : names ∈ record.spellings) :
          (Record.spelled name names decode value).Follows _ _ :=
        renames.follows_spelled (fullName_mem_iff names isField)
          fun _ _ own other same _ decoded => same ▸ decoded
      exact renames.decodeStrict fullName_mem_iff
        (.seq (.seq (.map (follows (by decide))) (follows (by decide))) (follows (by decide)))
        decoded

theorem optional_of_renames {value other : Value} (renames : Renames value other)
    {capabilities : Option CapabilitiesDeclaration}
    (decoded : Decoder.optional decode value = .ok capabilities) :
    Decoder.optional decode other = .ok capabilities := by
  rw [Decoder.optional_eq_ok_iff] at decoded ⊢
  rcases decoded with ⟨rfl, absent⟩ | ⟨notNull, present, isPresent, same⟩
  · cases renames
    exact .inl ⟨rfl, absent⟩
  · refine .inr ⟨?_, present, decode_of_renames renames isPresent, same⟩
    cases renames with
    | refl => exact notNull
    | object => nofun

end CapabilitiesDeclaration

namespace PolicyDocument

def fullName (name : String) : String :=
  if name = "env" then "environments"
  else if name = "parserOptions" then "parserCapabilities"
  else name

/--
The value with fields in some order and under their first names, or some of them, and so with
the fields of its capabilities.
-/
inductive Renames : Value → Value → Prop
  | refl (value : Value) : Renames value value
  | object {fields others : List (String × Value)}
      (renames : Record.Renames fullName (fun name own other => other = own ∨
        fullName name = "parserCapabilities" ∧ CapabilitiesDeclaration.Renames own other)
        fields others) :
      Renames (.object fields) (.object others)

theorem fullName_mem_iff : ∀ names ∈ record.spellings, ∀ name,
    fullName name ∈ names ↔ name ∈ names := by
  have spellings : record.spellings = [["$schema"], ["env", "environments"], ["extends"],
      ["parserCapabilities", "parserOptions"], ["plugins"], ["globals"], ["rules"]] := rfl
  intro names isNames name
  by_cases isEnvironments : name = "env"
  · subst isEnvironments
    revert names
    rw [spellings]
    decide
  · by_cases isCapabilities : name = "parserOptions"
    · subst isCapabilities
      revert names
      rw [spellings]
      decide
    · rw [fullName, if_neg isEnvironments, if_neg isCapabilities]

theorem decode_of_renames {value other : Value} (renames : Renames value other)
    {document : PolicyDocument} (decoded : decode value = .ok document) :
    decode other = .ok document := by
  cases renames with
  | refl => exact decoded
  | @object fields others renames =>
      have follows {α : Type} {name : String} {names : List String} {decode : Decoder α}
          {value : α} (isField : names ∈ record.spellings)
          (plain : ∀ name ∈ names, fullName name ≠ "parserCapabilities") :
          (Record.spelled name names decode value).Follows fields others :=
        renames.follows_spelled (fullName_mem_iff names isField)
          fun name isName own other stands _ decoded =>
            stands.resolve_right (fun inner => plain name isName inner.1) ▸ decoded
      have capabilities : (Record.spelled "parserCapabilities"
          ["parserCapabilities", "parserOptions"] CapabilitiesDeclaration.decode.optional
          none).Follows fields others := by
        refine renames.follows_spelled (fullName_mem_iff _ (by decide)) ?_
        rintro name - own other (rfl | ⟨-, renames⟩) result decoded
        · exact decoded
        · exact CapabilitiesDeclaration.optional_of_renames renames decoded
      exact renames.decodeStrict fullName_mem_iff
        (.seq (.seq (.seq (.seq (.seq (.seq (.map (follows (by decide) (by decide)))
          (follows (by decide) (by decide))) (follows (by decide) (by decide))) capabilities)
          (follows (by decide) (by decide))) (follows (by decide) (by decide)))
          (follows (by decide) (by decide))) decoded

theorem ofValue_of_renames {value other : Value} (renames : Renames value other)
    {document : PolicyDocument} (parsed : ofValue value = .ok document) :
    ofValue other = .ok document := by
  unfold ofValue at parsed
  split at parsed
  · cases parsed
  · rename_i own decoded
    rw [ofValue, decode_of_renames renames decoded]
    exact parsed

end PolicyDocument

/-! ## Policies -/

theorem RuleBinding.decode_encode (binding : RuleBinding) :
    decode binding.encode = .ok binding := by
  have severity : Severity.decode binding.severity.encode = .ok binding.severity := by
    cases binding.severity <;> rfl
  have options : Decoder.list Decoder.any (.array binding.options) = .ok binding.options := by
    have encoded := @Decoder.list_encoded _ Decoder.any id binding.options fun _ _ => rfl
    rwa [List.map_id] at encoded
  rw [encode, decode, Record.decode_object_eq_ok_iff]
  simp [record, Record.defaulted, severity, options]

theorem ParserCapabilities.decode_encode {capabilities : ParserCapabilities}
    (fits : capabilities.syntaxVersion.year < 0x10000) :
    decode capabilities.encode = .ok capabilities := by
  have version : SyntaxVersion.decode capabilities.syntaxVersion.encode =
      .ok capabilities.syntaxVersion :=
    map_eq_ok_iff.mpr ⟨_, Decoder.natural_int "u16" fits, rfl⟩
  have sourceType : SourceType.decode capabilities.sourceType.encode =
      .ok capabilities.sourceType := by
    cases capabilities.sourceType <;> rfl
  rw [encode, decode, Record.decode_object_eq_ok_iff]
  simp [record, version, sourceType]

theorem Policy.decode_encode {policy : Policy}
    (fits : policy.capabilities.syntaxVersion.year < 0x10000) :
    decode policy.encode = .ok policy := by
  have environments : Decoder.names (.array (policy.environments.keys.map .string)) =
      .ok policy.environments :=
    map_eq_ok_iff.mpr ⟨_, Decoder.list_text _, policy.environments.ofNames_keys⟩
  have globals : Decoder.dictionary AccessMode.decode policy.globals.encode =
      .ok policy.globals :=
    Decoder.dictionary_encoded fun entry _ => by cases entry.2 <;> rfl
  have rules : Decoder.dictionary RuleBinding.decode (.object (policy.rules.entries.map
      fun entry => (entry.1, entry.2.encode))) = .ok policy.rules :=
    Decoder.dictionary_encoded fun entry _ => entry.2.decode_encode
  rw [encode, decode, Record.decode_object_eq_ok_iff]
  simp [record, environments, ParserCapabilities.decode_encode fits, globals, rules]

namespace PolicyDocument

/--
A document that was parsed parses again from what is written, which has the first name of each
field only.  Renaming fields to their first names, or giving them in another order, changes
nothing.  Policies decode from what they are encoded as.
-/
theorem parse_is_canonical {layer : String} {value : Value} {document : PolicyDocument}
    (parsed : (Source.value value).parse layer = .ok document) :
    (Source.value document.encode).parse layer = .ok document ∧ HasFullNames document.encode ∧
      (∀ other, Renames value other ∨ Renames document.encode other →
        (Source.value other).parse layer = .ok document) ∧
      ∀ policy : Policy, policy.capabilities.syntaxVersion.year < 0x10000 →
        Policy.decode policy.encode = .ok policy := by
  have parse_iff (source : Value) (result : PolicyDocument) :
      (Source.value source).parse layer = .ok result ↔ ofValue source = .ok result := by
    rw [Source.parse, Source.document]
    cases ofValue source <;> simp
  simp only [parse_iff] at parsed ⊢
  have again := ofValue_encode parsed
  refine ⟨again, document.hasFullNames_encode, ?_, fun _ => Policy.decode_encode⟩
  rintro other (renames | renames)
  · exact ofValue_of_renames renames parsed
  · exact ofValue_of_renames renames again

def withSecondNames : Value :=
  .object [("env", .array [.string "browser"]), ("extends", .string "base"),
    ("parserOptions", .object [("ecmaVersion", .int 2020), ("sourceType", .string "module")]),
    ("globals", .object [("x", .bool true), ("y", .string "readonly")]),
    ("rules", .object [("semi", .array [.string "error", .object [("b", .int 1), ("a", .null)]])])]

def withFirstNames : Value :=
  .object [("environments", .array [.string "browser"]), ("extends", .string "base"),
    ("globals", .object [("x", .bool true), ("y", .string "readonly")]),
    ("parserCapabilities",
      .object [("sourceType", .string "module"), ("syntaxVersion", .int 2020)]),
    ("rules", .object [("semi", .array [.string "error", .object [("b", .int 1), ("a", .null)]])])]

theorem parse_withFirstNames :
    let document : PolicyDocument :=
      { PolicyDocument.empty with
        environments := some (.list ["browser"]), extending := some (.one "base")
        capabilities := some ⟨some (.number 2020), some "module", none⟩
        globals := .ofList [("x", .flag true), ("y", .mode "readonly")]
        rules := .ofList
          [("semi", .array [.string "error", .object [("a", .null), ("b", .int 1)]])] }
    let policy : Policy :=
      ⟨.ofNames ["browser"], .default, .ofList [("x", .readOnly)],
        .ofList [("semi", ⟨.blocking, [.string "always"]⟩), ("no-var", ⟨.off, []⟩)]⟩
    (Source.value withSecondNames).parse "root" = .ok document ∧
      (Source.value withFirstNames).parse "root" = .ok document ∧
      (Source.value document.encode).parse "root" = .ok document ∧
      Policy.decode policy.encode = .ok policy := by
  intro document policy
  have capabilities : CapabilitiesDeclaration.Renames
      (.object [("ecmaVersion", .int 2020), ("sourceType", .string "module")])
      (.object [("sourceType", .string "module"), ("syntaxVersion", .int 2020)]) := by
    refine .object ⟨[("syntaxVersion", .int 2020), ("sourceType", .string "module")], ?_,
      .swap _ _ _⟩
    exact .cons ⟨.inr rfl, rfl⟩ (.cons ⟨.inl rfl, rfl⟩ .nil)
  have renames : Renames withSecondNames withFirstNames := by
    refine .object ⟨("environments", _) :: _ :: ("parserCapabilities", _) :: _, ?_,
      .cons _ (.cons _ (.swap _ _ _))⟩
    exact .cons ⟨.inr rfl, .inl rfl⟩ (.cons ⟨.inl rfl, .inl rfl⟩
      (.cons ⟨.inr rfl, .inr ⟨rfl, capabilities⟩⟩ (.cons ⟨.inl rfl, .inl rfl⟩
        (.cons ⟨.inl rfl, .inl rfl⟩ .nil))))
  have parsed : (Source.value withSecondNames).parse "root" = .ok document := rfl
  obtain ⟨again, -, renamed, policies⟩ := parse_is_canonical parsed
  exact ⟨parsed, renamed withFirstNames (.inl renames), again, policies policy (by decide)⟩

end PolicyDocument

end ScriptLint
