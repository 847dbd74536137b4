import Mathlib.Data.List.Forall2
import ScriptLint.Proofs.Dictionary.Lookup
import ScriptLint.Value.Decoder

/-!
# What decoding gives

A property that all results of a decoder have is carried over to lists, dictionaries and
optional values of them.  Lists and dictionaries decode from their encoded parts if each
part does.
-/

namespace ScriptLint

/-! ## Results of several steps -/

theorem bind_eq_ok_iff {ε α β : Type} {first : Except ε α} {next : α → Except ε β} {result : β} :
    (first >>= next) = .ok result ↔ ∃ value, first = .ok value ∧ next value = .ok result := by
  cases first <;> simp [bind, Except.bind]

theorem bind_eq_error_iff {ε α β : Type} {first : Except ε α} {next : α → Except ε β}
    {error : ε} :
    (first >>= next) = .error error ↔
      first = .error error ∨ ∃ value, first = .ok value ∧ next value = .error error := by
  cases first <;> simp [bind, Except.bind]

theorem map_eq_ok_iff {ε α β : Type} {first : Except ε α} {transform : α → β} {result : β} :
    first.map transform = .ok result ↔ ∃ value, first = .ok value ∧ transform value = result := by
  cases first <;> simp [Except.map]

theorem map_eq_error_iff {ε α β : Type} {first : Except ε α} {transform : α → β} {error : ε} :
    first.map transform = .error error ↔ first = .error error := by
  cases first <;> simp [Except.map]

namespace Decoder

variable {α β : Type} {decode : Decoder α} {property : α → Prop}

/-! ## Properties of results -/

def Yields (decode : Decoder α) (property : α → Prop) : Prop :=
  ∀ value result, decode value = .ok result → property result

theorem Yields.map {transform : α → β} {conclusion : β → Prop} (yields : decode.Yields property)
    (keeps : ∀ result, property result → conclusion (transform result)) :
    Yields (fun value => (decode value).map transform) conclusion := by
  intro value result decoded
  obtain ⟨own, isOwn, rfl⟩ := map_eq_ok_iff.mp decoded
  exact keeps own (yields value own isOwn)

theorem Yields.either {typeName : String} {other : Decoder α} (first : decode.Yields property)
    (second : other.Yields property) : (either typeName decode other).Yields property := by
  intro value result decoded
  unfold Decoder.either at decoded
  split at decoded
  · rename_i isFirst
    cases decoded
    exact first value result isFirst
  · split at decoded
    · rename_i isSecond
      cases decoded
      exact second value result isSecond
    · cases decoded

theorem either_of_first {typeName : String} {other : Decoder α} {value : Value} {result : α}
    (isFirst : decode value = .ok result) : either typeName decode other value = .ok result := by
  rw [either, isFirst]

theorem either_of_second {typeName : String} {other : Decoder α} {value : Value} {result : α}
    {cause : DecodeError} (notFirst : decode value = .error cause)
    (isSecond : other value = .ok result) : either typeName decode other value = .ok result := by
  rw [either, notFirst, isSecond]

theorem natural_yields (limit : Nat) (name : String) :
    (natural limit name).Yields (· < limit) := by
  intro value result decoded
  cases value with
  | int number =>
      rw [natural] at decoded
      split at decoded
      · cases decoded
        omega
      · cases decoded
  | _ => cases decoded

theorem natural_int {limit number : Nat} (name : String) (small : number < limit) :
    natural limit name (.int number) = .ok number := by
  rw [natural, if_pos (by omega), Int.toNat_natCast]

theorem optional_eq_ok_iff {value : Value} {result : Option α} :
    decode.optional value = .ok result ↔
      (value = .null ∧ result = none) ∨
        value ≠ .null ∧ ∃ present, decode value = .ok present ∧ some present = result := by
  cases value with
  | null => simp [optional, eq_comm]
  | _ => simp [optional, map_eq_ok_iff]

theorem Yields.optional (yields : decode.Yields property) :
    decode.optional.Yields fun result => ∀ present ∈ result, property present := by
  intro value result decoded present isPresent
  rcases optional_eq_ok_iff.mp decoded with ⟨-, rfl⟩ | ⟨-, own, isOwn, rfl⟩
  · cases isPresent
  · cases isPresent
    exact yields value present isOwn

/-! ## Lists -/

theorem decodeAll_eq_ok_iff {items : List Value} {results : List α} :
    decodeAll decode items = .ok results ↔
      List.Forall₂ (fun item result => decode item = .ok result) items results := by
  induction items generalizing results with
  | nil => simp [decodeAll, eq_comm]
  | cons item items ih =>
      rw [decodeAll, List.forall₂_cons_left_iff]
      simp only [← ih]
      cases decode item with
      | error cause => simp
      | ok first => cases decodeAll decode items <;> simp [eq_comm]

theorem Yields.list (yields : decode.Yields property) :
    (list decode).Yields fun results => ∀ result ∈ results, property result := by
  intro value results decoded
  cases value with
  | array items =>
      have related := decodeAll_eq_ok_iff.mp decoded
      clear decoded
      induction related with
      | nil => simp
      | cons isFirst _ ih => exact List.forall_mem_cons.mpr ⟨yields _ _ isFirst, ih⟩
  | _ => cases decoded

theorem list_encoded {encode : α → Value} {results : List α}
    (each : ∀ result ∈ results, decode (encode result) = .ok result) :
    list decode (.array (results.map encode)) = .ok results := by
  rw [list, decodeAll_eq_ok_iff, List.forall₂_map_left_iff, List.forall₂_same]
  exact each

/-! ## Dictionaries -/

theorem decodeEntries_eq_ok_iff {fields : List (String × Value)} {entries : List (String × α)} :
    decodeEntries decode fields = .ok entries ↔
      List.Forall₂ (fun field entry => field.1 = entry.1 ∧ decode field.2 = .ok entry.2) fields
        entries := by
  induction fields generalizing entries with
  | nil => simp [decodeEntries, eq_comm]
  | cons field fields ih =>
      obtain ⟨name, value⟩ := field
      rw [decodeEntries, List.forall₂_cons_left_iff]
      simp only [← ih]
      cases decode value with
      | error cause => simp
      | ok first => cases decodeEntries decode fields <;> simp [eq_comm]

theorem dictionary_encoded {encode : α → Value} {results : Dictionary α}
    (each : ∀ entry ∈ results.entries, decode (encode entry.2) = .ok entry.2) :
    dictionary decode (.object (results.entries.map fun entry => (entry.1, encode entry.2))) =
      .ok results := by
  have decoded : decodeEntries decode
      (results.entries.map fun entry => (entry.1, encode entry.2)) = .ok results.entries := by
    rw [decodeEntries_eq_ok_iff, List.forall₂_map_left_iff, List.forall₂_same]
    exact fun entry member => ⟨rfl, each entry member⟩
  rw [dictionary, decoded, Except.map, Dictionary.ofList_entries]

end Decoder

end ScriptLint
