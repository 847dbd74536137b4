import Mathlib.Algebra.GroupWithZero.Nat
import Mathlib.Data.List.Induction
import ScriptLint.Text.Digits

/-!
# Numbers read from their digits

A number written in base ten consists of decimal digits and is read back from them,
so two numbers have the same text only if they are equal.
-/

namespace ScriptLint.Text

private theorem decimalDigit_of_lt : ∀ digit < 10,
    isDecimalDigit (decimalDigit digit) = true ∧ digitValue (decimalDigit digit) = digit := by
  decide

theorem decimalDigit_spec (number : Nat) :
    isDecimalDigit (decimalDigit number) = true ∧
      digitValue (decimalDigit number) = number % 10 := by
  have lowest : decimalDigit (number % 10) = decimalDigit number := by simp [decimalDigit]
  rw [← lowest]
  exact decimalDigit_of_lt (number % 10) (Nat.mod_lt number (by decide))

theorem isDecimalDigit_of_mem_decimalDigits {number : Nat} {character : Char}
    (member : character ∈ decimalDigits number) : isDecimalDigit character = true := by
  fun_induction decimalDigits number with
  | case1 number small =>
      obtain rfl := List.mem_singleton.mp member
      exact (decimalDigit_spec number).1
  | case2 number large ih =>
      rcases List.mem_append.mp member with higher | lowest
      · exact ih higher
      · obtain rfl := List.mem_singleton.mp lowest
        exact (decimalDigit_spec number).1

theorem span_digits {digits rest : List Char}
    (each : ∀ digit ∈ digits, isDecimalDigit digit = true)
    (boundary : ∀ character ∈ rest.head?, isDecimalDigit character = false) :
    (digits ++ rest).takeWhile isDecimalDigit = digits ∧
      (digits ++ rest).dropWhile isDecimalDigit = rest := by
  have stops : rest.takeWhile isDecimalDigit = [] ∧ rest.dropWhile isDecimalDigit = rest := by
    cases rest with
    | nil => simp
    | cons character rest => simp [boundary character rfl]
  rw [List.takeWhile_append_of_pos each, List.dropWhile_append_of_pos each, stops.1, stops.2,
    List.append_nil]
  exact ⟨rfl, rfl⟩

theorem head_decimalDigits (number : Nat) :
    ∃ digit rest, decimalDigits number = digit :: rest ∧ isDecimalDigit digit = true ∧
      (0 < number → digit ≠ '0') := by
  fun_induction decimalDigits number with
  | case1 number small =>
      obtain ⟨isDigit, value⟩ := decimalDigit_spec number
      refine ⟨_, [], rfl, isDigit, fun positive isZero => ?_⟩
      have zero : digitValue '0' = 0 := rfl
      rw [isZero, zero] at value
      omega
  | case2 number large ih =>
      obtain ⟨digit, rest, same, isDigit, notZero⟩ := ih
      exact ⟨digit, rest ++ [decimalDigit number], by rw [same, List.cons_append], isDigit,
        fun _ => notZero (by omega)⟩

theorem readDigits_append_singleton (digits : List Char) (digit : Char) :
    readDigits (digits ++ [digit]) = 10 * readDigits digits + digitValue digit := by
  simp [readDigits]

theorem readDigits_decimalDigits (number : Nat) : readDigits (decimalDigits number) = number := by
  fun_induction decimalDigits number with
  | case1 number small =>
      have single := readDigits_append_singleton [] (decimalDigit number)
      rw [List.nil_append, (decimalDigit_spec number).2] at single
      rw [single, readDigits, List.foldl_nil]
      omega
  | case2 number large ih =>
      rw [readDigits_append_singleton, ih, (decimalDigit_spec number).2]
      omega

theorem decimalDigits_injective {first second : Nat}
    (same : decimalDigits first = decimalDigits second) : first = second := by
  rw [← readDigits_decimalDigits first, same, readDigits_decimalDigits]

@[simp] theorem toList_natural (number : Nat) : (natural number).toList = decimalDigits number :=
  String.toList_ofList

/-! ## Digits of a fixed number -/

@[simp] theorem length_decimalFixed (width number : Nat) :
    (decimalFixed width number).length = width := by
  induction width generalizing number with
  | zero => rfl
  | succ width ih => simp [decimalFixed, ih]

theorem isDecimalDigit_of_mem_decimalFixed {width number : Nat} {character : Char}
    (member : character ∈ decimalFixed width number) : isDecimalDigit character = true := by
  induction width generalizing number with
  | zero => cases member
  | succ width ih =>
      rcases List.mem_append.mp member with higher | lowest
      · exact ih higher
      · obtain rfl := List.mem_singleton.mp lowest
        exact (decimalDigit_spec number).1

theorem readDigits_decimalFixed {width number : Nat} (fits : number < 10 ^ width) :
    readDigits (decimalFixed width number) = number := by
  induction width generalizing number with
  | zero =>
      have : number = 0 := by simpa using fits
      simp [decimalFixed, readDigits, this]
  | succ width ih =>
      have higher : number / 10 < 10 ^ width := by
        rw [Nat.pow_succ] at fits
        omega
      rw [decimalFixed, readDigits_append_singleton, ih higher, (decimalDigit_spec number).2]
      omega

theorem digitValue_lt {digit : Char} (isDigit : isDecimalDigit digit = true) :
    digitValue digit < 10 := by
  have most : digit ≤ '9' := by simp_all [isDecimalDigit]
  have : digit.toNat ≤ '9'.toNat := most
  have nine : '9'.toNat = 57 := rfl
  simp only [digitValue]
  omega

theorem readDigits_lt {digits : List Char}
    (each : ∀ digit ∈ digits, isDecimalDigit digit = true) :
    readDigits digits < 10 ^ digits.length := by
  induction digits using List.reverseRecOn with
  | nil => simp [readDigits]
  | append_singleton digits digit ih =>
      have earlier := ih fun other member => each other (List.mem_append_left _ member)
      have last := digitValue_lt (each digit (by simp))
      rw [readDigits_append_singleton, List.length_append, List.length_singleton, Nat.pow_succ]
      omega

end ScriptLint.Text
