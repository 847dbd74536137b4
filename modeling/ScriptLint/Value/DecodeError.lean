import ScriptLint.Number.Format
import ScriptLint.Text.Quoted
import ScriptLint.Value.Basic

/-!
# Why a value does not decode

Each way in which a value fails to be of an expected type, and the wording of
its message.
-/

namespace ScriptLint

inductive DecodeError where
  | wrongType (found : Value) (expected : String)
  | outOfRange (number : Int) (expected : String)
  | notOneKey
  | wrongLength (length : Nat) (expected : String)
  | unknownField (name : String) (accepted : List String)
  | unknownKeyword (name : String) (accepted : List String)
  | duplicateField (name : String)
  | missingField (name : String)
  | noForm (typeName : String)
  | badTimestamp (text : String)

namespace DecodeError

def describe : Value → String
  | .null => "null"
  | .bool flag => s!"boolean \x60{flag}\x60"
  | .int number => s!"integer \x60{Text.integer number}\x60"
  | .float number =>
      s!"floating point \x60{String.ofList (Binary64.messageFormat.write number)}\x60"
  | .string text => s!"string {Text.quoted text}"
  | .array _ => "sequence"
  | .object _ => "map"

def backquoted (name : String) : String := s!"\x60{name}\x60"

/-- Lists the accepted names: alone, as an alternative, or as a series. -/
def expectation : List String → String
  | [] => "there are no fields"
  | [only] => s!"expected {backquoted only}"
  | [first, second] => s!"expected {backquoted first} or {backquoted second}"
  | names => "expected one of " ++ ", ".intercalate (names.map backquoted)

def message : DecodeError → String
  | .wrongType found expected => s!"invalid type: {describe found}, expected {expected}"
  | .outOfRange number expected =>
      s!"invalid value: integer \x60{Text.integer number}\x60, expected {expected}"
  | .notOneKey => "invalid value: map, expected map with a single key"
  | .wrongLength length expected =>
      s!"invalid length {Text.natural length}, expected {expected}"
  | .unknownField name accepted => s!"unknown field \x60{name}\x60, {expectation accepted}"
  | .unknownKeyword name accepted => s!"unknown variant \x60{name}\x60, {expectation accepted}"
  | .duplicateField name => s!"duplicate field \x60{name}\x60"
  | .missingField name => s!"missing field \x60{name}\x60"
  | .noForm typeName => s!"data did not match any variant of untagged enum {typeName}"
  | .badTimestamp text => s!"invalid timestamp {Text.quoted text}"

end DecodeError

end ScriptLint
