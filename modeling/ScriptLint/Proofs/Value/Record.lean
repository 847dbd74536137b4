import ScriptLint.Proofs.Value.Decoder
import ScriptLint.Value.Record

/-!
# Records decoded from objects

A record decodes from an object exactly if each of its fields is there once and decodes,
or is missing and has a default.  So neither the order of the fields counts nor, for a
field with several spellings, which of them is used.  A property that the fields of a
record have is had by the record, in whichever form the value comes.
-/

namespace ScriptLint.Record

variable {α β : Type}

/-! ## Fields of an object -/

def valuesOf (names : List String) (fields : List (String × Value)) : List Value :=
  (fields.filter fun field => field.1 ∈ names).map (·.2)

@[simp] theorem valuesOf_nil (names : List String) : valuesOf names [] = [] := rfl

@[simp] theorem valuesOf_cons (names : List String) (field : String × Value)
    (fields : List (String × Value)) :
    valuesOf names (field :: fields) =
      if field.1 ∈ names then field.2 :: valuesOf names fields else valuesOf names fields := by
  by_cases named : field.1 ∈ names <;> simp [valuesOf, named]

@[simp] theorem valuesOf_append (names : List String) (first second : List (String × Value)) :
    valuesOf names (first ++ second) = valuesOf names first ++ valuesOf names second := by
  simp [valuesOf]

theorem map_occurrences (names : List String) (fields : List (String × Value)) :
    (occurrences names fields).map (·.2) = valuesOf names fields := by
  have shifted (start : Nat) : ((fields.zipIdx start).filterMap fun entry =>
      if entry.1.1 ∈ names then some (entry.2, entry.1.2) else none).map (·.2) =
        valuesOf names fields := by
    induction fields generalizing start with
    | nil => rfl
    | cons field fields ih =>
        by_cases named : field.1 ∈ names <;> simp_all [valuesOf]
  exact shifted 0

theorem ofFields_field_eq_ok_iff {name : String} {spellings : List String} {decode : Decoder α}
    {absent : Except DecodeError α} {default? : Option α} {fields : List (String × Value)}
    {result : α} :
    (field name spellings decode absent default?).ofFields fields = .ok result ↔
      (valuesOf spellings fields = [] ∧ absent = .ok result) ∨
        ∃ value, valuesOf spellings fields = [value] ∧ decode value = .ok result := by
  rw [← map_occurrences]
  simp only [field]
  cases occurrences spellings fields with
  | nil => cases absent <;> simp
  | cons first more =>
      obtain ⟨index, value⟩ := first
      cases decoded : decode value <;> cases more <;> simp [decoded]

@[simp] theorem ofFields_required_eq_ok_iff {name : String} {decode : Decoder α}
    {fields : List (String × Value)} {result : α} :
    (required name decode).ofFields fields = .ok result ↔
      ∃ value, valuesOf [name] fields = [value] ∧ decode value = .ok result := by
  simp [required, ofFields_field_eq_ok_iff]

@[simp] theorem ofFields_spelled_eq_ok_iff {name : String} {spellings : List String}
    {decode : Decoder α} {value : α} {fields : List (String × Value)} {result : α} :
    (spelled name spellings decode value).ofFields fields = .ok result ↔
      (valuesOf spellings fields = [] ∧ value = result) ∨
        ∃ given, valuesOf spellings fields = [given] ∧ decode given = .ok result := by
  simp [spelled, ofFields_field_eq_ok_iff]

@[simp] theorem ofFields_map_eq_ok_iff {transform : α → β} {record : Record α}
    {fields : List (String × Value)} {result : β} :
    (transform <$> record).ofFields fields = .ok result ↔
      ∃ own, record.ofFields fields = .ok own ∧ transform own = result := by
  change (apply (pure transform) record).ofFields fields = .ok result ↔ _
  simp only [apply, pure]
  cases record.ofFields fields <;> simp

@[simp] theorem ofFields_seq_eq_ok_iff {first : Record (α → β)} {second : Record α}
    {fields : List (String × Value)} {result : β} :
    (first <*> second).ofFields fields = .ok result ↔
      ∃ function, first.ofFields fields = .ok function ∧
        ∃ argument, second.ofFields fields = .ok argument ∧ function argument = result := by
  change (apply first second).ofFields fields = .ok result ↔ _
  simp only [apply]
  cases first.ofFields fields <;> cases second.ofFields fields <;> simp

theorem ofFields_map {transform : α → β} {record : Record α} {fields : List (String × Value)}
    {own : α} (isOwn : record.ofFields fields = .ok own) :
    (transform <$> record).ofFields fields = .ok (transform own) :=
  ofFields_map_eq_ok_iff.mpr ⟨own, isOwn, rfl⟩

theorem ofFields_seq {first : Record (α → β)} {second : Record α}
    {fields : List (String × Value)} {function : α → β} {argument : α}
    (isFunction : first.ofFields fields = .ok function)
    (isArgument : second.ofFields fields = .ok argument) :
    (first <*> second).ofFields fields = .ok (function argument) :=
  ofFields_seq_eq_ok_iff.mpr ⟨function, isFunction, argument, isArgument, rfl⟩

theorem decode_object_eq_ok_iff {typeName : String} {record : Record α}
    {fields : List (String × Value)} {result : α} :
    record.decode typeName (.object fields) = .ok result ↔
      record.ofFields fields = .ok result := by
  cases decoded : record.ofFields fields <;> simp [decode, ofObject, decoded]

theorem unknownField?_eq_none_iff {accepted : List String} {fields : List (String × Value)} :
    unknownField? accepted fields = none ↔ ∀ field ∈ fields, field.1 ∈ accepted := by
  have shifted (start : Nat) : ((fields.zipIdx start).findSome? fun entry =>
      if entry.1.1 ∈ accepted then none
      else some (.atKey entry.2 (.unknownField entry.1.1 accepted) : Fault)) = none ↔
        ∀ field ∈ fields, field.1 ∈ accepted := by
    induction fields generalizing start with
    | nil => simp
    | cons field fields ih =>
        by_cases known : field.1 ∈ accepted <;> simp_all
  exact shifted 0

theorem decodeStrict_object_eq_ok_iff {typeName : String} {record : Record α}
    {fields : List (String × Value)} {result : α} :
    record.decodeStrict typeName (.object fields) = .ok result ↔
      record.ofFields fields = .ok result ∧
        ∀ field ∈ fields, field.1 ∈ record.spellings.flatten := by
  rw [← unknownField?_eq_none_iff]
  cases decoded : record.ofFields fields <;>
    cases unknown : unknownField? record.spellings.flatten fields <;>
    simp [decodeStrict, ofObject, decoded, unknown]

/-! ## Other fields for the same result -/

/-- The record decodes from the other fields to whatever it decodes to from the first ones. -/
def Follows (record : Record α) (fields others : List (String × Value)) : Prop :=
  ∀ result, record.ofFields fields = .ok result → record.ofFields others = .ok result

namespace Follows

variable {fields others : List (String × Value)}

theorem seq {first : Record (α → β)} {second : Record α} (function : first.Follows fields others)
    (argument : second.Follows fields others) : (first <*> second).Follows fields others := by
  intro result decoded
  obtain ⟨own, isOwn, given, isGiven, same⟩ := ofFields_seq_eq_ok_iff.mp decoded
  exact ofFields_seq_eq_ok_iff.mpr ⟨own, function own isOwn, given, argument given isGiven, same⟩

theorem map {transform : α → β} {record : Record α} (argument : record.Follows fields others) :
    (transform <$> record).Follows fields others := by
  intro result decoded
  obtain ⟨own, isOwn, same⟩ := ofFields_map_eq_ok_iff.mp decoded
  exact ofFields_map_eq_ok_iff.mpr ⟨own, argument own isOwn, same⟩

end Follows

/--
The same fields in some order, each under its name or the one that `rename` gives it, with
values that stand for its own.
-/
def Renames (rename : String → String) (standsFor : String → Value → Value → Prop)
    (fields others : List (String × Value)) : Prop :=
  ∃ renamed, List.Forall₂ (fun field other => (other.1 = field.1 ∨ other.1 = rename field.1) ∧
    standsFor field.1 field.2 other.2) fields renamed ∧ renamed.Perm others

namespace Renames

variable {rename : String → String} {standsFor : String → Value → Value → Prop}
  {names : List String} {fields others : List (String × Value)}

theorem mem_names (renames : Renames rename standsFor fields others)
    (keeps : ∀ name, rename name ∈ names ↔ name ∈ names)
    (known : ∀ field ∈ fields, field.1 ∈ names) : ∀ other ∈ others, other.1 ∈ names := by
  obtain ⟨renamed, each, rearranged⟩ := renames
  have knownRenamed : ∀ other ∈ renamed, other.1 ∈ names := by
    clear rearranged
    induction each with
    | nil => simp
    | @cons field other _ _ stands _ ih =>
        obtain ⟨first, rest⟩ := List.forall_mem_cons.mp known
        refine List.forall_mem_cons.mpr ⟨?_, ih rest⟩
        rcases stands.1 with same | isRenamed
        · rwa [same]
        · rwa [isRenamed, keeps]
  exact fun other member => knownRenamed other (rearranged.mem_iff.mpr member)

theorem forall₂_valuesOf (renames : Renames rename standsFor fields others)
    (keeps : ∀ name, rename name ∈ names ↔ name ∈ names) :
    ∃ values, List.Forall₂ (fun value other => ∃ name ∈ names, standsFor name value other)
      (valuesOf names fields) values ∧ values.Perm (valuesOf names others) := by
  obtain ⟨renamed, each, rearranged⟩ := renames
  refine ⟨valuesOf names renamed, ?_, (rearranged.filter _).map _⟩
  clear rearranged
  induction each with
  | nil => exact .nil
  | @cons field other _ _ stands _ ih =>
      have sameGroup : other.1 ∈ names ↔ field.1 ∈ names := by
        rcases stands.1 with same | isRenamed
        · rw [same]
        · rw [isRenamed, keeps]
      rw [valuesOf_cons, valuesOf_cons]
      by_cases named : field.1 ∈ names
      · rw [if_pos named, if_pos (sameGroup.mpr named)]
        exact .cons ⟨field.1, named, stands.2⟩ ih
      · rw [if_neg named, if_neg (mt sameGroup.mp named)]
        exact ih

theorem follows_spelled (renames : Renames rename standsFor fields others) {name : String}
    {decode : Decoder α} {value : α} (keeps : ∀ name, rename name ∈ names ↔ name ∈ names)
    (carries : ∀ name ∈ names, ∀ own other, standsFor name own other →
      ∀ result, decode own = .ok result → decode other = .ok result) :
    (spelled name names decode value).Follows fields others := by
  intro result decoded
  obtain ⟨values, each, rearranged⟩ := renames.forall₂_valuesOf keeps
  rw [ofFields_spelled_eq_ok_iff] at decoded ⊢
  rcases decoded with ⟨isMissing, same⟩ | ⟨own, isOwn, isResult⟩
  · rw [isMissing] at each
    cases each
    exact .inl ⟨rearranged.nil_eq.symm, same⟩
  · rw [isOwn] at each
    obtain ⟨other, _, ⟨given, isName, stands⟩, noMore, rfl⟩ := List.forall₂_cons_left_iff.mp each
    cases noMore
    exact .inr ⟨other, rearranged.singleton_eq.symm,
      carries given isName own other stands result isResult⟩

theorem decodeStrict (renames : Renames rename standsFor fields others) {typeName : String}
    {record : Record α} {result : α}
    (keeps : ∀ names ∈ record.spellings, ∀ name, rename name ∈ names ↔ name ∈ names)
    (follows : record.Follows fields others)
    (decoded : record.decodeStrict typeName (.object fields) = .ok result) :
    record.decodeStrict typeName (.object others) = .ok result := by
  rw [decodeStrict_object_eq_ok_iff] at decoded ⊢
  refine ⟨follows result decoded.1, renames.mem_names (fun name => ?_) decoded.2⟩
  simp only [List.mem_flatten]
  constructor
  · rintro ⟨names, isNames, named⟩
    exact ⟨names, isNames, (keeps names isNames name).mp named⟩
  · rintro ⟨names, isNames, named⟩
    exact ⟨names, isNames, (keeps names isNames name).mpr named⟩

end Renames

/-! ## Properties of results -/

structure Yields (record : Record α) (property : α → Prop) : Prop where
  ofFields : ∀ fields result, record.ofFields fields = .ok result → property result
  ofItems : ∀ expected index items result rest,
    record.ofItems expected index items = .ok (result, rest) → property result

namespace Yields

theorem trivial (record : Record α) : record.Yields fun _ => True :=
  ⟨fun _ _ _ => True.intro, fun _ _ _ _ _ _ => True.intro⟩

variable {record : Record α} {decoder : Decoder α} {property : α → Prop}

theorem seq {first : Record (α → β)} {conclusion : β → Prop}
    (function : first.Yields fun result => ∀ argument, property argument →
      conclusion (result argument)) (argument : record.Yields property) :
    (first <*> record).Yields conclusion := by
  constructor
  · intro fields result decoded
    obtain ⟨apply, isFunction, own, isOwn, rfl⟩ := ofFields_seq_eq_ok_iff.mp decoded
    exact function.ofFields fields apply isFunction own (argument.ofFields fields own isOwn)
  · intro expected index items result rest decoded
    change (apply first record).ofItems expected index items = _ at decoded
    simp only [apply] at decoded
    cases isFunction : first.ofItems expected index items with
    | error cause => simp [isFunction] at decoded
    | ok taken =>
        obtain ⟨own, left⟩ := taken
        cases isArgument : record.ofItems expected (index + first.spellings.length) left with
        | error cause => simp [isFunction, isArgument] at decoded
        | ok last =>
            simp only [isFunction, isArgument] at decoded
            cases decoded
            exact function.ofItems _ _ _ _ _ isFunction _
              (argument.ofItems _ _ _ _ _ isArgument)

theorem map {transform : α → β} {conclusion : β → Prop} (argument : record.Yields property)
    (keeps : ∀ own, property own → conclusion (transform own)) :
    (transform <$> record).Yields conclusion :=
  seq ⟨fun _ _ same => by cases same; exact keeps, fun _ _ _ _ _ same => by cases same; exact keeps⟩
    argument

theorem field {name : String} {spellings : List String} {absent : Except DecodeError α}
    {default? : Option α} (yields : decoder.Yields property)
    (ifAbsent : ∀ result, absent = .ok result → property result)
    (byDefault : ∀ result, default? = some result → property result) :
    (field name spellings decoder absent default?).Yields property := by
  constructor
  · intro fields result decoded
    rcases ofFields_field_eq_ok_iff.mp decoded with ⟨-, isAbsent⟩ | ⟨value, -, isValue⟩
    · exact ifAbsent result isAbsent
    · exact yields value result isValue
  · intro expected index items result rest decoded
    cases items with
    | nil =>
        cases default? with
        | none => cases decoded
        | some value =>
            cases decoded
            exact byDefault result rfl
    | cons item items =>
        obtain ⟨own, isOwn, same⟩ := map_eq_ok_iff.mp decoded
        cases same
        exact yields item result isOwn

theorem required {name : String} (yields : decoder.Yields property) :
    (required name decoder).Yields property :=
  field yields (by simp) (by simp)

theorem spelled {name : String} {spellings : List String} {value : α}
    (yields : decoder.Yields property) (byDefault : property value) :
    (spelled name spellings decoder value).Yields property :=
  field yields (by simpa) (by simpa)

theorem ofArray {typeName : String} (yields : record.Yields property) {items : List Value}
    {result : α} (decoded : record.ofArray typeName items = .ok result) : property result := by
  unfold Record.ofArray at decoded
  split at decoded
  · cases decoded
  · rename_i taken
    cases decoded
    exact yields.ofItems _ _ _ _ _ taken
  · cases decoded

theorem decode {typeName : String} (yields : record.Yields property) :
    Decoder.Yields (record.decode typeName) property := by
  intro value result decoded
  cases value with
  | object fields => exact yields.ofFields fields result (decode_object_eq_ok_iff.mp decoded)
  | array items => exact yields.ofArray decoded
  | _ => cases decoded

theorem decodeStrict {typeName : String} (yields : record.Yields property) :
    Decoder.Yields (record.decodeStrict typeName) property := by
  intro value result decoded
  cases value with
  | object fields =>
      exact yields.ofFields fields result (decodeStrict_object_eq_ok_iff.mp decoded).1
  | array items => exact yields.ofArray decoded
  | _ => cases decoded

end Yields

end ScriptLint.Record
