import ScriptLint.Value.Decoder

/-!
# Timestamps

A moment as RFC 3339 writes it: a date, a time of day down to nanoseconds, and
the offset of local time from universal time in minutes.  Texts are printed with
the shortest fraction and `Z` for universal time.
-/

namespace ScriptLint

open Text

structure Timestamp where
  year : Nat
  month : Nat
  day : Nat
  hour : Nat
  minute : Nat
  second : Nat
  nanosecond : Nat
  offset : Int
  deriving DecidableEq, Repr

namespace Timestamp

/-! ## Calendar -/

def isLeapYear (year : Nat) : Bool :=
  year % 4 = 0 && (year % 100 ≠ 0 || year % 400 = 0)

def monthLength (year month : Nat) : Nat :=
  if month = 2 then (if isLeapYear year then 29 else 28)
  else if month = 4 ∨ month = 6 ∨ month = 9 ∨ month = 11 then 30
  else 31

def isValid (moment : Timestamp) : Bool :=
  (1 ≤ moment.month && moment.month ≤ 12) &&
    (1 ≤ moment.day && moment.day ≤ monthLength moment.year moment.month) &&
    (moment.hour < 24 && moment.minute < 60 && moment.second < 60)

/-- Whether the moment is in the last minute of a month in universal time. -/
def endsMonth (moment : Timestamp) : Bool :=
  let minutes : Int := moment.hour * 60 + moment.minute - moment.offset
  let length := monthLength moment.year moment.month
  if minutes = -1 then moment.day = 1
  else if minutes = 1439 then moment.day = length
  else if minutes = 2879 then moment.day + 1 = length
  else false

/-! ## Writing -/

def trimmedFraction (nanosecond : Nat) : List Char :=
  if nanosecond = 0 then []
  else '.' :: ((decimalFixed 9 nanosecond).reverse.dropWhile (· == '0')).reverse

def offsetText (offset : Int) : List Char :=
  if offset = 0 then ['Z']
  else
    (if offset < 0 then '-' else '+') ::
      (decimalFixed 2 (offset.natAbs / 60) ++ [':'] ++ decimalFixed 2 (offset.natAbs % 60))

def characters (moment : Timestamp) : List Char :=
  decimalFixed 4 moment.year ++ ['-'] ++ decimalFixed 2 moment.month ++ ['-'] ++
    decimalFixed 2 moment.day ++ ['T'] ++ decimalFixed 2 moment.hour ++ [':'] ++
    decimalFixed 2 moment.minute ++ [':'] ++ decimalFixed 2 moment.second ++
    trimmedFraction moment.nanosecond ++ offsetText moment.offset

def text (moment : Timestamp) : String := String.ofList moment.characters

/-! ## Reading -/

def takeDigits (width : Nat) (input : List Char) : Option (Nat × List Char) :=
  let digits := input.take width
  if digits.length = width ∧ digits.all isDecimalDigit then
    some (readDigits digits, input.drop width)
  else none

def takeMark (mark : Char) : List Char → Option (List Char)
  | [] => none
  | character :: rest => if character = mark then some rest else none

/-- Date and time may be separated by any one ASCII character. -/
def takeSeparator : List Char → Option (List Char)
  | [] => none
  | character :: rest => if character.toNat < 128 then some rest else none

/-- A fraction of a second in nanoseconds; digits after the ninth are dropped. -/
def takeFraction : List Char → Option (Nat × List Char)
  | '.' :: rest =>
      let digits := rest.takeWhile isDecimalDigit
      if digits.isEmpty then none
      else
        let nine := (digits ++ List.replicate 9 '0').take 9
        some (readDigits nine, rest.dropWhile isDecimalDigit)
  | input => some (0, input)

theorem takeFraction_of_not_point {input : List Char} (notPoint : input.head? ≠ some '.') :
    takeFraction input = some (0, input) := by
  unfold takeFraction
  split
  · exact absurd rfl notPoint
  · rfl

def takeOffset : List Char → Option (Int × List Char)
  | [] => none
  | sign :: rest =>
      if sign = 'Z' ∨ sign = 'z' then some (0, rest)
      else if sign = '+' ∨ sign = '-' then do
        let (hours, rest) ← takeDigits 2 rest
        let rest ← takeMark ':' rest
        let (minutes, rest) ← takeDigits 2 rest
        if hours < 24 ∧ minutes < 60 then
          let size : Int := hours * 60 + minutes
          some (if sign = '-' then -size else size, rest)
        else none
      else none

/--
A second numbered 60 is a leap second, which only the end of a month can have,
and stands for the last nanosecond before it.
-/
def settleLeapSecond (moment : Timestamp) : Option Timestamp :=
  if moment.second = 60 then
    let settled := { moment with second := 59, nanosecond := 999999999 }
    if settled.isValid && settled.endsMonth then some settled else none
  else if moment.isValid then some moment
  else none

def read? (text : String) : Option Timestamp := do
  let (year, rest) ← takeDigits 4 text.toList
  let rest ← takeMark '-' rest
  let (month, rest) ← takeDigits 2 rest
  let rest ← takeMark '-' rest
  let (day, rest) ← takeDigits 2 rest
  let rest ← takeSeparator rest
  let (hour, rest) ← takeDigits 2 rest
  let rest ← takeMark ':' rest
  let (minute, rest) ← takeDigits 2 rest
  let rest ← takeMark ':' rest
  let (second, rest) ← takeDigits 2 rest
  let (nanosecond, rest) ← takeFraction rest
  let (offset, rest) ← takeOffset rest
  if rest.isEmpty then
    settleLeapSecond ⟨year, month, day, hour, minute, second, nanosecond, offset⟩
  else none

def decode : Decoder Timestamp
  | .string text =>
      match read? text with
      | some moment => .ok moment
      | none => .error (.badTimestamp text)
  | other => .error (.wrongType other "an RFC3339-formatted \x60OffsetDateTime\x60")

def encode (moment : Timestamp) : Value := .string moment.text

end Timestamp

end ScriptLint
