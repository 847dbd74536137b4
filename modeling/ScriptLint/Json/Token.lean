import ScriptLint.Text.Digits
import ScriptLint.Value.Basic

/-!
# JSON tokens

The strict lexical grammar of JSON: four blank characters, six punctuation
marks, and scalars.  A whole number that fits a word of 64 bits, signed or
unsigned, stays whole; every other number is a binary fraction, and one beyond
their range is no token.
-/

namespace ScriptLint.Json

open Text

inductive Token where
  | openArray
  | closeArray
  | openObject
  | closeObject
  | comma
  | colon
  | scalar (value : Value)

def isSpace (character : Char) : Bool :=
  character = ' ' || character = '\n' || character = '\t' || character = '\r'

/-! ## Strings -/

def escapeMeaning? (character : Char) : Option Char :=
  match character with
  | '"' => some '"'
  | '\\' => some '\\'
  | '/' => some '/'
  | 'b' => some (Char.ofNat 8)
  | 'f' => some (Char.ofNat 12)
  | 'n' => some '\n'
  | 'r' => some '\r'
  | 't' => some '\t'
  | _ => none

def isHighSurrogate (unit : Nat) : Bool := 0xD800 ≤ unit && unit < 0xDC00

def isLowSurrogate (unit : Nat) : Bool := 0xDC00 ≤ unit && unit < 0xE000

def surrogatePair (high low : Nat) : Char :=
  Char.ofNat (0x10000 + (high - 0xD800) * 0x400 + (low - 0xDC00))

def consCharacter (character : Char) (rest : Option (List Char × List Char)) :
    Option (List Char × List Char) :=
  rest.map fun result => (character :: result.1, result.2)

def readString : List Char → Option (List Char × List Char)
  | [] => none
  | '"' :: rest => some ([], rest)
  | '\\' :: 'u' :: a :: b :: c :: d :: rest =>
      match readHex? [a, b, c, d] with
      | none => none
      | some unit =>
          if isHighSurrogate unit then
            match rest with
            | '\\' :: 'u' :: e :: f :: g :: h :: rest =>
                match readHex? [e, f, g, h] with
                | none => none
                | some next =>
                    if isLowSurrogate next then
                      consCharacter (surrogatePair unit next) (readString rest)
                    else none
            | _ => none
          else if isLowSurrogate unit then none
          else consCharacter (Char.ofNat unit) (readString rest)
  | '\\' :: mark :: rest =>
      match escapeMeaning? mark with
      | none => none
      | some character => consCharacter character (readString rest)
  | character :: rest =>
      if character.toNat < 32 then none else consCharacter character (readString rest)

theorem readString_length {input content rest : List Char}
    (read : readString input = some (content, rest)) : rest.length < input.length := by
  fun_induction readString input generalizing content rest <;>
    simp_all [consCharacter] <;> grind

/-! ## Numbers -/

def wordLimit : Nat := 0x10000000000000000

/-- Whole digits as long as they fit a word, and how many digits are left out then. -/
def wholeSignificand : Nat → List Char → Nat × Nat
  | significand, [] => (significand, 0)
  | significand, digit :: rest =>
      let next := 10 * significand + digitValue digit
      if next < wordLimit then wholeSignificand next rest
      else (significand, rest.length + 1)

def fractionSignificand : Nat → List Char → Nat × Nat
  | significand, [] => (significand, 0)
  | significand, digit :: rest =>
      let next := 10 * significand + digitValue digit
      if next < wordLimit then
        let result := fractionSignificand next rest
        (result.1, result.2 + 1)
      else (significand, 0)

def binaryFraction? (negative : Bool) (whole fraction : List Char) (exponent : Int) :
    Option Value :=
  let (leading, dropped) := wholeSignificand 0 whole
  let (significand, taken) := fractionSignificand leading fraction
  (Binary64.ofDecimalInSteps? negative significand (dropped - taken + exponent)).map .float

def wholeNumber? (negative : Bool) (digits : List Char) : Option Value :=
  let number := readDigits digits
  if negative then
    if 0 < number ∧ number ≤ 0x8000000000000000 then some (.int (-number))
    else binaryFraction? true digits [] 0
  else if number < wordLimit then some (.int number)
  else binaryFraction? false digits [] 0

/-- The digits before anything else; a leading zero stands alone. -/
def splitWhole : List Char → List Char × List Char
  | '0' :: rest => (['0'], rest)
  | input => (input.takeWhile isDecimalDigit, input.dropWhile isDecimalDigit)

theorem splitWhole_of_not_zero {input : List Char} (notZero : input.head? ≠ some '0') :
    splitWhole input = (input.takeWhile isDecimalDigit, input.dropWhile isDecimalDigit) := by
  fun_cases splitWhole input with
  | case1 rest => exact absurd rfl notZero
  | case2 => rfl

def splitFraction? : List Char → Option (Option (List Char) × List Char)
  | '.' :: rest =>
      let digits := rest.takeWhile isDecimalDigit
      if digits.isEmpty then none else some (some digits, rest.dropWhile isDecimalDigit)
  | input => some (none, input)

def splitExponent? : List Char → Option (Option Int × List Char)
  | [] => some (none, [])
  | mark :: rest =>
      if mark = 'e' ∨ mark = 'E' then
        let (negative, unsigned) := splitSign rest
        let digits := unsigned.takeWhile isDecimalDigit
        if digits.isEmpty then none
        else
          let size : Int := readDigits digits
          some (some (if negative then -size else size), unsigned.dropWhile isDecimalDigit)
      else some (none, mark :: rest)

def numberValue? (negative : Bool) (whole : List Char) :
    Option (List Char) → Option Int → Option Value
  | none, none => wholeNumber? negative whole
  | fraction, exponent => binaryFraction? negative whole (fraction.getD []) (exponent.getD 0)

def readUnsigned (negative : Bool) (input : List Char) : Option (Value × List Char) :=
  if (splitWhole input).1.isEmpty then none
  else
    (splitFraction? (splitWhole input).2).bind fun fraction =>
      (splitExponent? fraction.2).bind fun exponent =>
        (numberValue? negative (splitWhole input).1 fraction.1 exponent.1).map
          fun value => (value, exponent.2)

def readNumber : List Char → Option (Value × List Char)
  | '-' :: rest => readUnsigned true rest
  | input => readUnsigned false input

theorem readNumber_of_not_minus {input : List Char} (notMinus : input.head? ≠ some '-') :
    readNumber input = readUnsigned false input := by
  fun_cases readNumber input with
  | case1 rest => exact absurd rfl notMinus
  | case2 => rfl

theorem dropWhile_length_le (test : Char → Bool) (input : List Char) :
    (input.dropWhile test).length ≤ input.length :=
  (List.dropWhile_sublist test).length_le

theorem splitWhole_length {input : List Char} (nonempty : (splitWhole input).1 ≠ []) :
    (splitWhole input).2.length < input.length := by
  by_cases zero : input.head? = some '0'
  · obtain ⟨rest, rfl⟩ := List.head?_eq_some_iff.mp zero
    simp [splitWhole]
  · rw [splitWhole_of_not_zero zero] at nonempty ⊢
    cases input with
    | nil => exact absurd rfl nonempty
    | cons head rest =>
        by_cases digit : isDecimalDigit head
        · rw [List.dropWhile_cons_of_pos digit, List.length_cons]
          exact Nat.lt_succ_of_le (dropWhile_length_le _ _)
        · rw [List.takeWhile_cons_of_neg digit] at nonempty
          exact absurd rfl nonempty

theorem splitFraction?_length {input : List Char} {result : Option (List Char) × List Char}
    (split : splitFraction? input = some result) : result.2.length ≤ input.length := by
  fun_cases splitFraction? input with
  | case1 rest digits empty => simp [splitFraction?, digits] at split empty; simp_all
  | case2 rest digits nonempty =>
      have shorter := dropWhile_length_le isDecimalDigit rest
      simp only [splitFraction?] at split
      rw [if_neg nonempty] at split
      cases split
      simp only [List.length_cons]
      omega
  | case3 => simp_all [splitFraction?]; cases split; simp

theorem splitSign_length (input : List Char) : (splitSign input).2.length ≤ input.length := by
  unfold splitSign
  split <;> simp

theorem splitExponent?_length {input : List Char} {result : Option Int × List Char}
    (split : splitExponent? input = some result) : result.2.length ≤ input.length := by
  cases input with
  | nil => cases split; simp
  | cons mark rest =>
      rw [splitExponent?] at split
      split at split
      · have signed := splitSign_length rest
        have shorter := dropWhile_length_le isDecimalDigit (splitSign rest).2
        simp only at split
        split at split
        · cases split
        · cases split
          simp only [List.length_cons]
          omega
      · cases split
        simp

theorem readUnsigned_length {negative : Bool} {input rest : List Char} {value : Value}
    (read : readUnsigned negative input = some (value, rest)) : rest.length < input.length := by
  unfold readUnsigned at read
  split at read
  · cases read
  · rename_i nonempty
    have first := @splitWhole_length input (by simpa using nonempty)
    simp only [Option.bind_eq_some_iff, Option.map_eq_some_iff] at read
    obtain ⟨fraction, splitAtFraction, exponent, splitAtExponent, number, -, same⟩ := read
    have second := splitFraction?_length splitAtFraction
    have third := splitExponent?_length splitAtExponent
    cases same
    omega

theorem readNumber_length {input rest : List Char} {value : Value}
    (read : readNumber input = some (value, rest)) : rest.length < input.length := by
  unfold readNumber at read
  split at read
  · have shorter := readUnsigned_length read
    simp only [List.length_cons]
    omega
  · exact readUnsigned_length read

/-! ## Token lists -/

def tokens (input : List Char) : Option (List Token) :=
  match input with
  | [] => some []
  | '[' :: rest => (tokens rest).map (.openArray :: ·)
  | ']' :: rest => (tokens rest).map (.closeArray :: ·)
  | '\x7b' :: rest => (tokens rest).map (.openObject :: ·)
  | '\x7d' :: rest => (tokens rest).map (.closeObject :: ·)
  | ',' :: rest => (tokens rest).map (.comma :: ·)
  | ':' :: rest => (tokens rest).map (.colon :: ·)
  | 'n' :: 'u' :: 'l' :: 'l' :: rest => (tokens rest).map (.scalar .null :: ·)
  | 't' :: 'r' :: 'u' :: 'e' :: rest => (tokens rest).map (.scalar (.bool true) :: ·)
  | 'f' :: 'a' :: 'l' :: 's' :: 'e' :: rest =>
      (tokens rest).map (.scalar (.bool false) :: ·)
  | '"' :: rest =>
      match read : readString rest with
      | none => none
      | some (content, rest') =>
          have := readString_length read
          (tokens rest').map (.scalar (.string (String.ofList content)) :: ·)
  | character :: rest =>
      if isSpace character then tokens rest
      else
        match read : readNumber (character :: rest) with
        | none => none
        | some (value, rest') =>
            have := readNumber_length read
            (tokens rest').map (.scalar value :: ·)
termination_by input.length
decreasing_by all_goals simp_all <;> omega

theorem tokens_space {character : Char} (space : isSpace character = true) (rest : List Char) :
    tokens (character :: rest) = tokens rest := by
  rw [tokens, if_pos space]
  all_goals intros; subst character; revert space; decide

theorem tokens_number {character : Char} {text rest : List Char} {value : Value}
    (starts : character = '-' ∨ isDecimalDigit character = true)
    (read : readNumber (character :: text) = some (value, rest)) :
    tokens (character :: text) = (tokens rest).map (.scalar value :: ·) := by
  have notSpace : isSpace character = false := by
    rw [isSpace]
    simp only [Bool.or_eq_false_iff, decide_eq_false_iff_not]
    refine ⟨⟨⟨?_, ?_⟩, ?_⟩, ?_⟩ <;> rintro rfl <;> revert starts <;> decide
  rw [tokens, if_neg (by simp [notSpace])]
  · split
    · rename_i failed
      rw [read] at failed
      cases failed
    · rename_i other after found
      rw [read] at found
      cases found
      rfl
  all_goals intros; subst character; revert starts; decide

end ScriptLint.Json
