/-!
# Digits

Numbers in base ten are written without leading zeros, and the digits of a list make up
a value.  Hexadecimal digits are written in lowercase and read in either case.
-/

namespace ScriptLint.Text

/-! ## Decimal digits -/

/-- The digits `0` to `9`; other decimal digits of Unicode are none here. -/
def isDecimalDigit (character : Char) : Bool := '0' ≤ character && character ≤ '9'

def digitValue (character : Char) : Nat := character.toNat - 48

def decimalDigit (digit : Nat) : Char :=
  ['0', '1', '2', '3', '4', '5', '6', '7', '8', '9'].getD (digit % 10) '0'

def decimalDigits (number : Nat) : List Char :=
  if number < 10 then [decimalDigit number]
  else decimalDigits (number / 10) ++ [decimalDigit number]

def decimalFixed : Nat → Nat → List Char
  | 0, _ => []
  | width + 1, number => decimalFixed width (number / 10) ++ [decimalDigit number]

def readDigits (digits : List Char) : Nat :=
  digits.foldl (fun number digit => 10 * number + digitValue digit) 0

def splitSign : List Char → Bool × List Char
  | '-' :: rest => (true, rest)
  | '+' :: rest => (false, rest)
  | input => (false, input)

def integerDigits (number : Int) : List Char :=
  if number < 0 then '-' :: decimalDigits number.natAbs else decimalDigits number.natAbs

def natural (number : Nat) : String := String.ofList (decimalDigits number)

def integer (number : Int) : String := String.ofList (integerDigits number)

/-! ## Hexadecimal digits -/

def hexDigits : List Char :=
  ['0', '1', '2', '3', '4', '5', '6', '7', '8', '9', 'a', 'b', 'c', 'd', 'e', 'f']

def hexDigit (digit : Nat) : Char := hexDigits.getD (digit % 16) '0'

def hexFixed : Nat → Nat → List Char
  | 0, _ => []
  | width + 1, number => hexFixed width (number / 16) ++ [hexDigit number]

def hexNumber (number : Nat) : List Char :=
  if number < 16 then [hexDigit number]
  else hexNumber (number / 16) ++ [hexDigit number]

def hexValue? (character : Char) : Option Nat :=
  if '0' ≤ character ∧ character ≤ '9' then some (character.toNat - 48)
  else if 'a' ≤ character ∧ character ≤ 'f' then some (character.toNat - 87)
  else if 'A' ≤ character ∧ character ≤ 'F' then some (character.toNat - 55)
  else none

def readHex? (digits : List Char) : Option Nat :=
  digits.foldlM (fun number digit => (16 * number + ·) <$> hexValue? digit) 0

end ScriptLint.Text
