import ScriptLint.Timestamp

/-!
# TOML scalars

The values that a word of TOML may stand for: truth values, whole numbers in four
bases, decimal fractions, and dates and times.  A date or a time is an object whose
one field holds its text.
-/

namespace ScriptLint.Toml

open Text

/-! ## Numbers -/

/-- Removes underscores, each of which must stand between two digits. -/
def ungrouped? (isDigit : Char → Bool) : List Char → Option (List Char)
  | [] => none
  | [digit] => if isDigit digit then some [digit] else none
  | digit :: '_' :: rest =>
      if isDigit digit then (ungrouped? isDigit rest).map (digit :: ·) else none
  | digit :: rest => if isDigit digit then (ungrouped? isDigit rest).map (digit :: ·) else none

def wholeDigits? (characters : List Char) : Option (List Char) :=
  match ungrouped? isDecimalDigit characters with
  | some ('0' :: _ :: _) => none
  | result => result

def word? (number : Int) : Option Value :=
  if -0x8000000000000000 ≤ number ∧ number < 0x10000000000000000 then some (.int number) else none

def inBase? (base : Nat) (characters : List Char) : Option Value :=
  let isDigit (character : Char) : Bool := (hexValue? character).any (· < base)
  (ungrouped? isDigit characters).bind fun digits =>
    word? (digits.foldl (fun number digit => base * number + (hexValue? digit).getD 0) 0 : Nat)

def integer? : List Char → Option Value
  | '0' :: 'x' :: digits => inBase? 16 digits
  | '0' :: 'o' :: digits => inBase? 8 digits
  | '0' :: 'b' :: digits => inBase? 2 digits
  | characters =>
      let (negative, unsigned) := splitSign characters
      (wholeDigits? unsigned).bind fun digits =>
        let size : Int := readDigits digits
        word? (if negative then -size else size)

def isGroupCharacter (character : Char) : Bool := isDecimalDigit character || character = '_'

def fractionDigits? : List Char → Option (List Char)
  | [] => some []
  | '.' :: rest => ungrouped? isDecimalDigit rest
  | _ => none

def exponent? : List Char → Option Int
  | [] => some 0
  | mark :: rest =>
      if mark = 'e' ∨ mark = 'E' then
        let (negative, unsigned) := splitSign rest
        (ungrouped? isDecimalDigit unsigned).map fun digits =>
          let size : Int := readDigits digits
          if negative then -size else size
      else none

def isExponentMark (character : Char) : Bool := character = 'e' || character = 'E'

def decimal? (negative : Bool) (unsigned : List Char) : Option Value := do
  let whole ← wholeDigits? (unsigned.takeWhile isGroupCharacter)
  let rest := unsigned.dropWhile isGroupCharacter
  let fraction ← fractionDigits? (rest.takeWhile (! isExponentMark ·))
  let exponent ← exponent? (rest.dropWhile (! isExponentMark ·))
  if rest.isEmpty then none
  else
    (Binary64.ofDecimal? negative (readDigits (whole ++ fraction))
      (exponent - fraction.length)).map .float

def float? (characters : List Char) : Option Value :=
  let (negative, unsigned) := splitSign characters
  if unsigned = ['i', 'n', 'f'] then some (.float (.infinity negative))
  else if unsigned = ['n', 'a', 'n'] then some (.float (.notANumber negative))
  else decimal? negative unsigned

/-! ## Dates and times -/

open Timestamp

def takeDate? (input : List Char) : Option (List Char × List Char) := do
  let (year, rest) ← takeDigits 4 input
  let (month, rest) ← takeDigits 2 (← takeMark '-' rest)
  let (day, rest) ← takeDigits 2 (← takeMark '-' rest)
  if 1 ≤ month ∧ month ≤ 12 ∧ 1 ≤ day ∧ day ≤ monthLength year month then
    some (input.take 10, rest)
  else none

/-- Seconds and a fraction of one, both of which may be missing; a minute may have a second 60. -/
def takeSeconds? : List Char → Option (List Char × List Char)
  | ':' :: rest => do
      let (second, afterSecond) ← takeDigits 2 rest
      let (nanosecond, after) ← takeFraction afterSecond
      if 60 < second then none
      else
        let fraction :=
          if afterSecond.length = after.length then []
          else if nanosecond = 0 then ['.', '0']
          else trimmedFraction nanosecond
        some (':' :: rest.take 2 ++ fraction, after)
  | input => some ([], input)

def takeTime? (input : List Char) : Option (List Char × List Char) := do
  let (hour, rest) ← takeDigits 2 input
  let (minute, rest) ← takeDigits 2 (← takeMark ':' rest)
  let (seconds, rest) ← takeSeconds? rest
  if hour < 24 ∧ minute < 60 then some (input.take 5 ++ seconds, rest) else none

def offset? : List Char → Option (List Char)
  | [] => some []
  | ['Z'] => some ['Z']
  | ['z'] => some ['Z']
  | input =>
      match takeOffset input with
      | some (0, []) => some ['+', '0', '0', ':', '0', '0']
      | some (offset, []) => some (offsetText offset)
      | _ => none

/-- What follows a date: nothing, or a time, which may have an offset. -/
def afterDate? : List Char → Option (List Char)
  | [] => some []
  | separator :: rest =>
      if separator = 'T' ∨ separator = 't' ∨ separator = ' ' then
        (takeTime? rest).bind fun time => (offset? time.2).map fun offset =>
          'T' :: time.1 ++ offset
      else none

def moment? (characters : List Char) : Option (List Char) :=
  match takeDate? characters with
  | some (date, rest) => (afterDate? rest).map (date ++ ·)
  | none =>
      match takeTime? characters with
      | some (time, []) => some time
      | _ => none

def momentValue (characters : List Char) : Value :=
  .object [("$__toml_private_datetime", .string (String.ofList characters))]

/-! ## Words -/

def scalar? (characters : List Char) : Option Value :=
  if characters = ['t', 'r', 'u', 'e'] then some (.bool true)
  else if characters = ['f', 'a', 'l', 's', 'e'] then some (.bool false)
  else ((integer? characters).or (float? characters)).or ((moment? characters).map momentValue)

end ScriptLint.Toml
