import Mathlib.Data.List.TakeWhile
import ScriptLint.Proofs.Text.Digits
import ScriptLint.Timestamp

/-!
# Timestamps read from their text

Every timestamp that is read from a text can be written, and is read back from
what is written: the digits of a fraction that are left out are the zeros that
reading puts back.
-/

namespace ScriptLint.Timestamp

open Text

/-- A moment within what a text can say: four digits of a year and an offset of less than a day. -/
structure IsWritable (moment : Timestamp) : Prop where
  valid : moment.isValid = true
  year : moment.year < 10 ^ 4
  nanosecond : moment.nanosecond < 10 ^ 9
  offset : moment.offset.natAbs < 1440

/-! ## Reading what is written -/

@[simp] theorem takeMark_self (mark : Char) (rest : List Char) :
    takeMark mark (mark :: rest) = some rest := by
  simp [takeMark]

theorem takeDigits_decimalFixed {width number : Nat} (fits : number < 10 ^ width)
    (rest : List Char) :
    takeDigits width (decimalFixed width number ++ rest) = some (number, rest) := by
  have digits : (decimalFixed width number).all isDecimalDigit = true := by
    rw [List.all_eq_true]
    exact fun _ member => isDecimalDigit_of_mem_decimalFixed member
  have taken : (decimalFixed width number ++ rest).take width = decimalFixed width number := by
    simp
  have left : (decimalFixed width number ++ rest).drop width = rest := by simp
  simp [takeDigits, taken, left, digits, readDigits_decimalFixed fits]

theorem take_trimmed_append (digits : List Char) :
    ((digits.reverse.dropWhile (· == '0')).reverse ++ List.replicate digits.length '0').take
      digits.length = digits := by
  obtain ⟨zeros, isZeros⟩ : ∃ count,
      (digits.reverse.takeWhile (· == '0')).reverse = List.replicate count '0' := by
    refine ⟨_, List.eq_replicate_of_mem fun digit member => ?_⟩
    rw [List.mem_reverse] at member
    simpa using List.mem_takeWhile_imp member
  have whole :
      (digits.reverse.dropWhile (· == '0')).reverse ++ List.replicate zeros '0' = digits := by
    rw [← isZeros, ← List.reverse_append, List.takeWhile_append_dropWhile, List.reverse_reverse]
  generalize (digits.reverse.dropWhile (· == '0')).reverse = kept at whole ⊢
  subst whole
  have longer : kept.length ≤ kept.length + zeros := by omega
  simp [List.take_append, List.take_replicate, List.take_of_length_le longer]

theorem takeOffset_signed {sign : Char} (isSign : sign = '+' ∨ sign = '-') {hours minutes : Nat}
    (hoursFit : hours < 24) (minutesFit : minutes < 60) :
    takeOffset (sign :: (decimalFixed 2 hours ++ [':'] ++ decimalFixed 2 minutes)) =
      some (if sign = '-' then -(hours * 60 + minutes : Int) else hours * 60 + minutes, []) := by
  have first := takeDigits_decimalFixed (show hours < 10 ^ 2 by omega)
    (':' :: decimalFixed 2 minutes)
  have last := takeDigits_decimalFixed (show minutes < 10 ^ 2 by omega) []
  have notUniversal : ¬ (sign = 'Z' ∨ sign = 'z') := by
    rcases isSign with rfl | rfl <;> decide
  rw [List.append_nil] at last
  rw [List.append_assoc, List.singleton_append, takeOffset, if_neg notUniversal, if_pos isSign]
  simp only [first, last, takeMark_self, Option.bind_eq_bind, Option.bind_some]
  rw [if_pos ⟨hoursFit, minutesFit⟩]

theorem takeOffset_offsetText {offset : Int} (fits : offset.natAbs < 1440) :
    takeOffset (offsetText offset) = some (offset, []) := by
  have hoursFit : offset.natAbs / 60 < 24 := by omega
  have minutesFit : offset.natAbs % 60 < 60 := by omega
  unfold offsetText
  split
  · rename_i isZero
    rw [isZero]
    rfl
  · split
    · have size :
          -((offset.natAbs / 60 : Nat) * 60 + (offset.natAbs % 60 : Nat) : Int) = offset := by
        omega
      rw [takeOffset_signed (.inr rfl) hoursFit minutesFit, if_pos rfl, size]
    · have size :
          ((offset.natAbs / 60 : Nat) * 60 + (offset.natAbs % 60 : Nat) : Int) = offset := by
        omega
      rw [takeOffset_signed (.inl rfl) hoursFit minutesFit, if_neg (by decide), size]

theorem takeFraction_trimmedFraction {nanosecond : Nat} (fits : nanosecond < 10 ^ 9)
    (offset : Int) :
    takeFraction (trimmedFraction nanosecond ++ offsetText offset) =
      some (nanosecond, offsetText offset) := by
  have boundary : ∀ character ∈ (offsetText offset).head?,
      isDecimalDigit character = false ∧ character ≠ '.' := by
    unfold offsetText
    split
    · simp [isDecimalDigit]
    · split <;> simp [isDecimalDigit]
  unfold trimmedFraction
  split
  · rename_i isZero
    rw [isZero, List.nil_append, takeFraction_of_not_point]
    intro isPoint
    exact (boundary '.' isPoint).2 rfl
  · rename_i notZero
    have filled := take_trimmed_append (decimalFixed 9 nanosecond)
    have digits : ∀ digit ∈ ((decimalFixed 9 nanosecond).reverse.dropWhile (· == '0')).reverse,
        isDecimalDigit digit = true := by
      intro digit member
      rw [List.mem_reverse] at member
      have inReverse := (List.dropWhile_sublist _).subset member
      exact isDecimalDigit_of_mem_decimalFixed (List.mem_reverse.mp inReverse)
    generalize ((decimalFixed 9 nanosecond).reverse.dropWhile (· == '0')).reverse = kept
      at filled digits ⊢
    rw [length_decimalFixed] at filled
    have notEmpty : kept.isEmpty = false := by
      cases kept with
      | nil =>
          have allZeros := readDigits_decimalFixed fits
          rw [← filled] at allZeros
          exact absurd allZeros.symm notZero
      | cons => rfl
    obtain ⟨taken, left⟩ := span_digits digits fun character isHead => (boundary character isHead).1
    rw [List.cons_append, takeFraction, taken, left, notEmpty, filled]
    simp [readDigits_decimalFixed fits]

theorem read?_text {moment : Timestamp} (writable : moment.IsWritable) :
    read? moment.text = some moment := by
  have valid := writable.valid
  simp only [isValid, Bool.and_eq_true, decide_eq_true_eq] at valid
  have month : moment.month < 10 ^ 2 := by omega
  have day : moment.day < 10 ^ 2 := by
    have : monthLength moment.year moment.month ≤ 31 := by
      unfold monthLength
      repeat' split
      all_goals omega
    omega
  have hour : moment.hour < 10 ^ 2 := by omega
  have minute : moment.minute < 10 ^ 2 := by omega
  have second : moment.second < 10 ^ 2 := by omega
  have notLeap : moment.second ≠ 60 := by omega
  have separator (rest : List Char) : takeSeparator ('T' :: rest) = some rest := rfl
  rw [read?, text, String.toList_ofList, characters]
  simp only [List.append_assoc, List.cons_append, List.nil_append, Option.bind_eq_bind,
    Option.bind_some, takeMark_self, separator, takeDigits_decimalFixed writable.year,
    takeDigits_decimalFixed month, takeDigits_decimalFixed day, takeDigits_decimalFixed hour,
    takeDigits_decimalFixed minute, takeDigits_decimalFixed second,
    takeFraction_trimmedFraction writable.nanosecond, takeOffset_offsetText writable.offset]
  rw [if_pos List.isEmpty_nil, settleLeapSecond, if_neg notLeap, if_pos writable.valid]

/-! ## What reading gives -/

theorem takeDigits_lt {width number : Nat} {input rest : List Char}
    (taken : takeDigits width input = some (number, rest)) : number < 10 ^ width := by
  simp only [takeDigits] at taken
  split at taken
  · rename_i digits
    cases taken
    have below := readDigits_lt (List.all_eq_true.mp digits.2)
    rwa [digits.1] at below
  · cases taken

theorem takeFraction_lt {nanosecond : Nat} {input rest : List Char}
    (taken : takeFraction input = some (nanosecond, rest)) : nanosecond < 10 ^ 9 := by
  unfold takeFraction at taken
  split at taken
  · rename_i after
    have each : ∀ digit ∈ (after.takeWhile isDecimalDigit ++ List.replicate 9 '0').take 9,
        isDecimalDigit digit = true := by
      intro digit member
      rcases List.mem_append.mp (List.mem_of_mem_take member) with isDigit | isZero
      · exact List.mem_takeWhile_imp isDigit
      · rw [List.eq_of_mem_replicate isZero]
        rfl
    have below := readDigits_lt each
    rw [List.length_take_of_le (by simp)] at below
    dsimp only at taken
    split at taken
    · cases taken
    · cases taken
      exact below
  · cases taken
    decide

theorem takeOffset_lt {offset : Int} {input rest : List Char}
    (taken : takeOffset input = some (offset, rest)) : offset.natAbs < 1440 := by
  unfold takeOffset at taken
  split at taken
  · cases taken
  · split at taken
    · cases taken
      decide
    · split at taken
      · simp only [Option.bind_eq_bind, Option.bind_eq_some_iff] at taken
        obtain ⟨⟨hours, _⟩, -, _, -, ⟨minutes, _⟩, -, checked⟩ := taken
        dsimp only at checked
        split at checked
        · rename_i inRange
          cases checked
          split <;> omega
        · cases checked
      · cases taken

theorem isValid_of_settleLeapSecond {moment settled : Timestamp}
    (settles : moment.settleLeapSecond = some settled) :
    settled.isValid = true ∧ settled.year = moment.year ∧ settled.offset = moment.offset ∧
      (settled.nanosecond = moment.nanosecond ∨ settled.nanosecond = 999999999) := by
  unfold settleLeapSecond at settles
  split at settles
  · dsimp only at settles
    split at settles
    · rename_i checked
      cases settles
      exact ⟨(Bool.and_eq_true_iff.mp checked).1, rfl, rfl, .inr rfl⟩
    · cases settles
  · split at settles
    · rename_i valid
      cases settles
      exact ⟨valid, rfl, rfl, .inl rfl⟩
    · cases settles

theorem isWritable_of_read? {text : String} {moment : Timestamp}
    (read : read? text = some moment) : moment.IsWritable := by
  simp only [read?, Option.bind_eq_bind, Option.bind_eq_some_iff] at read
  obtain ⟨⟨year, _⟩, isYear, _, -, ⟨month, _⟩, -, _, -, ⟨day, _⟩, -, _, -, ⟨hour, _⟩, -, _, -,
    ⟨minute, _⟩, -, _, -, ⟨second, _⟩, -, ⟨nanosecond, _⟩, isFraction, ⟨offset, _⟩, isOffset,
    settled⟩ := read
  split at settled
  · obtain ⟨valid, sameYear, sameOffset, nanoseconds⟩ := isValid_of_settleLeapSecond settled
    have fraction := takeFraction_lt isFraction
    refine ⟨valid, sameYear ▸ takeDigits_lt isYear, ?_, sameOffset ▸ takeOffset_lt isOffset⟩
    rcases nanoseconds with same | last
    · rw [same]
      exact fraction
    · rw [last]
      decide
  · cases settled

end ScriptLint.Timestamp
