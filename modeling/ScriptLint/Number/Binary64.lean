import ScriptLint.Text.Digits

/-!
# Binary numbers of 64 bits

A finite number is a sign and a magnitude `significand · 2 ^ exponent` with a
significand below `2 ^ 53` and an exponent of at least `-1074`.  The value is kept
as its encoding, so equal encodings are equal numbers and the two zeros differ.
All arithmetic is exact on natural numbers and rounds once, to the nearest
number, a tie going to the even significand; its results are finite.
-/

namespace ScriptLint

structure Binary64 where
  bits : UInt64
  deriving DecidableEq, Repr, Inhabited

namespace Binary64

def signBit : Nat := 0x8000000000000000

def leadingBit : Nat := 0x10000000000000

def magnitudeLimit : Nat := 0x7FF0000000000000

def ofMagnitude (negative : Bool) (magnitude : Nat) : Binary64 :=
  ⟨UInt64.ofNat (if negative then signBit + magnitude else magnitude)⟩

def zero (negative : Bool) : Binary64 := ofMagnitude negative 0

def negative (number : Binary64) : Bool := signBit ≤ number.bits.toNat

def magnitude (number : Binary64) : Nat := number.bits.toNat % signBit

def isFinite (number : Binary64) : Bool := number.magnitude < magnitudeLimit

def infinity (negative : Bool) : Binary64 := ofMagnitude negative magnitudeLimit

def notANumber (negative : Bool) : Binary64 :=
  ofMagnitude negative (magnitudeLimit + leadingBit / 2)

def isZero (number : Binary64) : Bool := number.magnitude = 0

def significand (number : Binary64) : Nat :=
  let biased : Nat := number.magnitude / leadingBit
  let fraction : Nat := number.magnitude % leadingBit
  if biased = 0 then fraction else leadingBit + fraction

def exponent (number : Binary64) : Int :=
  let biased : Nat := number.magnitude / leadingBit
  if biased = 0 then -1074 else (biased : Int) - 1075

def roundedQuotient (numerator denominator : Nat) : Nat :=
  let whole := numerator / denominator
  let rest := 2 * (numerator % denominator)
  if rest > denominator ∨ (rest = denominator ∧ whole % 2 = 1) then whole + 1 else whole

def round (negative : Bool) (numerator denominator : Nat) : Option Binary64 :=
  if numerator = 0 then some (zero negative)
  else
    let estimate : Int := (numerator.log2 : Int) - denominator.log2 - 53
    let scaled (exponent : Int) : Nat × Nat :=
      (numerator * Nat.pow 2 (-exponent).toNat, denominator * Nat.pow 2 exponent.toNat)
    let (above, below) := scaled estimate
    let exponent := max (-1074) (if above / below < 2 * leadingBit then estimate else estimate + 1)
    let (above, below) := scaled exponent
    let magnitude := (exponent + 1074).toNat * leadingBit + roundedQuotient above below
    if magnitude < magnitudeLimit then some (ofMagnitude negative magnitude) else none

def fraction (number : Binary64) : Nat × Nat :=
  (number.significand * Nat.pow 2 number.exponent.toNat, Nat.pow 2 (-number.exponent).toNat)

def multiply? (first second : Binary64) : Option Binary64 :=
  round (first.negative != second.negative)
    (first.fraction.1 * second.fraction.1) (first.fraction.2 * second.fraction.2)

def divide? (first second : Binary64) : Option Binary64 :=
  round (first.negative != second.negative)
    (first.fraction.1 * second.fraction.2) (first.fraction.2 * second.fraction.1)

/--
The decimal `significand · 10 ^ exponent`, rounded once.  A magnitude of `10 ^ 310`
or more is out of range, and one below `10 ^ -330` rounds to zero.
-/
def ofDecimal? (negative : Bool) (significand : Nat) (exponent : Int) : Option Binary64 :=
  let width := (Text.decimalDigits significand).length
  if significand = 0 ∨ exponent + width < -330 then some (zero negative)
  else if 310 < exponent then none
  else round negative (significand * Nat.pow 10 exponent.toNat) (Nat.pow 10 (-exponent).toNat)

/-! ## Decimals rounded in two steps -/

def largestPower : Nat := 308

def powerOfTen? (power : Nat) : Option Binary64 := round false (Nat.pow 10 power) 1

def divideRepeatedly? : Nat → Binary64 → Option Binary64
  | 0, number => some number
  | times + 1, number =>
      if number.isZero then some number
      else
        match (powerOfTen? largestPower).bind number.divide? with
        | none => none
        | some quotient => divideRepeatedly? times quotient

def divideByPower? (number : Binary64) (power : Nat) : Option Binary64 :=
  let times := (power - 1) / largestPower
  match divideRepeatedly? times number with
  | none => none
  | some quotient => (powerOfTen? (power - times * largestPower)).bind quotient.divide?

/--
The decimal `significand · 10 ^ exponent` where the significand is rounded to a
number first and then multiplied with or divided by the power of ten.
-/
def ofDecimalInSteps? (negative : Bool) (significand : Nat) (exponent : Int) :
    Option Binary64 :=
  match round negative significand 1 with
  | none => none
  | some number =>
      if exponent < 0 then number.divideByPower? exponent.natAbs
      else if number.isZero then some number
      else if exponent.toNat ≤ largestPower then
        (powerOfTen? exponent.toNat).bind number.multiply?
      else none

end Binary64

end ScriptLint
