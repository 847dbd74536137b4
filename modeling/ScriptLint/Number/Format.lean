import ScriptLint.Number.Shortest

/-!
# Number texts

How the shortest decimal of a number is laid out.  The format is one record, so
that the decisions stand in one place.
-/

namespace ScriptLint.Binary64

open Text

/--
Decimals with a leading power from `leastPositional` up to, but not including,
`mostPositional` are written positionally, and the others with an exponent.
-/
structure NumberFormat where
  leastPositional : Int
  mostPositional : Int
  wholeSuffix : List Char
  exponentMark : List Char
  positiveExponent : List Char

/-- Whole numbers keep `.0`, and a positive exponent shows its sign. -/
def messageFormat : NumberFormat where
  leastPositional := -5
  mostPositional := 16
  wholeSuffix := ['.', '0']
  exponentMark := ['e']
  positiveExponent := ['+']

def NumberFormat.positional (format : NumberFormat) (decimal : Decimal) : List Char :=
  if decimal.exponent < 0 then
    ['0', '.'] ++ List.replicate (decimal.exponent.natAbs - 1) '0' ++ decimal.digits
  else
    let whole := decimal.exponent.toNat + 1
    if decimal.digits.length ≤ whole then
      decimal.digits ++ List.replicate (whole - decimal.digits.length) '0' ++ format.wholeSuffix
    else decimal.digits.take whole ++ ['.'] ++ decimal.digits.drop whole

def NumberFormat.exponential (format : NumberFormat) (decimal : Decimal) : List Char :=
  let mantissa :=
    match decimal.digits with
    | first :: second :: rest => first :: '.' :: second :: rest
    | digits => digits
  let sign := if decimal.exponent < 0 then ['-'] else format.positiveExponent
  mantissa ++ format.exponentMark ++ sign ++ decimalDigits decimal.exponent.natAbs

def NumberFormat.write (format : NumberFormat) (number : Binary64) : List Char :=
  let decimal := number.shortest
  let unsigned :=
    if format.leastPositional ≤ decimal.exponent ∧ decimal.exponent < format.mostPositional then
      format.positional decimal
    else format.exponential decimal
  if number.negative then '-' :: unsigned else unsigned

end ScriptLint.Binary64
