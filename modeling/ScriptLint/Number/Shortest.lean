import ScriptLint.Number.Binary64
import ScriptLint.Text.Digits

/-!
# The fewest digits that read back

A number is written with as few decimal digits as tell it from every other
number: the first grid `1, 2, …, 17` digits wide that has a point among the reals
rounding to the number supplies the digits, and of two such points the nearer.
-/

namespace ScriptLint.Binary64

open Text

structure Decimal where
  digits : List Char
  exponent : Int
  deriving DecidableEq, Repr

def leadingPower (numerator denominator : Nat) : Int :=
  if denominator ≤ numerator then
    ((decimalDigits (numerator / denominator)).length : Int) - 1
  else
    let width := (decimalDigits (denominator / numerator)).length
    if denominator ≤ numerator * Nat.pow 10 (width - 1) then 1 - (width : Int)
    else -(width : Int)

def compareScaled (first : Nat) (power : Int) (second : Nat) (exponent : Int) : Ordering :=
  compare (first * Nat.pow 10 power.toNat * Nat.pow 2 (-exponent).toNat)
    (second * Nat.pow 2 exponent.toNat * Nat.pow 10 (-power).toNat)

/--
The reals that round to a positive number, in units of a quarter of the last
place: the two ends, and whether they belong to it.
-/
def roundingInterval (number : Binary64) : Nat × Nat × Bool :=
  let centre := 4 * number.significand
  let below := if number.significand = leadingBit ∧ -1074 < number.exponent then 1 else 2
  (centre - below, centre + 2, number.significand % 2 = 0)

def readsBack (number : Binary64) (point : Nat) (power : Int) : Bool :=
  let (low, high, inclusive) := number.roundingInterval
  let fromLow := compareScaled point power low (number.exponent - 2)
  let fromHigh := compareScaled point power high (number.exponent - 2)
  (fromLow == .gt || (inclusive && fromLow == .eq)) &&
    (fromHigh == .lt || (inclusive && fromHigh == .eq))

/-- The point of the grid with `width` digits that reads back, if there is one. -/
def gridPoint? (number : Binary64) (leading : Int) (width : Nat) : Option (Nat × Int) :=
  let power := leading + 1 - width
  let (numerator, denominator) := number.fraction
  let above := numerator * Nat.pow 10 (-power).toNat
  let below := denominator * Nat.pow 10 power.toNat
  let lower := above / below
  let rest := 2 * (above % below)
  let nearer := if rest > below ∨ (rest = below ∧ lower % 2 = 1) then lower + 1 else lower
  let farther := if nearer = lower then lower + 1 else lower
  if number.readsBack nearer power then some (nearer, power)
  else if number.readsBack farther power then some (farther, power)
  else none

def shortest (number : Binary64) : Decimal :=
  if number.isZero then ⟨['0'], 0⟩
  else
    let (numerator, denominator) := number.fraction
    let leading := leadingPower numerator denominator
    match (List.range 17).findSome? fun index => number.gridPoint? leading (index + 1) with
    | none => ⟨['0'], 0⟩
    | some (point, power) =>
        let digits := decimalDigits point
        ⟨(digits.reverse.dropWhile (· == '0')).reverse, power + digits.length - 1⟩

end ScriptLint.Binary64
