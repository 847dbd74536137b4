import ScriptLint.Json.Writer
import ScriptLint.Severity

/-!
# Rule settings

What a document says about one rule: a severity, given by number or by name, or
a list of a severity and options.  A setting without options leaves those of
earlier layers in force.
-/

namespace ScriptLint

structure RuleSetting where
  severity : Severity
  options : Option (List Value)

inductive SettingShape where
  | level (number : Nat)
  | name (text : String)
  | tuple (severity : Value) (options : List Value)

inductive SettingError where
  | badLevel (number : Value)
  | empty
  | unsupported (value : Value)
  | unknownName (name : String)
  | nestedTuple

namespace SettingError

def message : SettingError → String
  | .badLevel number => s!"expected 0, 1 or 2, found {Json.compact number}"
  | .empty => "empty rule setting"
  | .unsupported value => s!"unsupported rule setting: {Json.compact value}"
  | .unknownName name =>
      s!"unknown severity '{name}' (expected off|warn|error|advisory|blocking)"
  | .nestedTuple => "severity inside a tuple must be a scalar"

end SettingError

namespace SettingShape

def of : Value → Except SettingError SettingShape
  | .int number =>
      if 0 ≤ number then .ok (.level number.toNat) else .error (.badLevel (.int number))
  | .float number => .error (.badLevel (.float number))
  | .string text => .ok (.name text)
  | .array [] => .error .empty
  | .array (severity :: options) => .ok (.tuple severity options)
  | other => .error (.unsupported other)

end SettingShape

namespace Severity

def ofLevel : Nat → Except SettingError Severity
  | 0 => .ok .off
  | 1 => .ok .advisory
  | 2 => .ok .blocking
  | number => .error (.badLevel (.int number))

def ofName (name : String) : Except SettingError Severity :=
  if name = "off" then .ok .off
  else if name ∈ ["warn", "warning", "advisory"] then .ok .advisory
  else if name ∈ ["error", "blocking"] then .ok .blocking
  else .error (.unknownName name)

def ofScalar (value : Value) : Except SettingError Severity :=
  match SettingShape.of value with
  | .error cause => .error cause
  | .ok (.level number) => ofLevel number
  | .ok (.name name) => ofName name
  | .ok (.tuple _ _) => .error .nestedTuple

end Severity

namespace RuleSetting

/-- An empty list of options is the same as none. -/
def of (severity : Severity) : List Value → RuleSetting
  | [] => ⟨severity, none⟩
  | options => ⟨severity, some options⟩

def resolve (value : Value) : Except SettingError RuleSetting :=
  match SettingShape.of value with
  | .error cause => .error cause
  | .ok (.tuple severity options) => (Severity.ofScalar severity).map fun found => of found options
  | .ok _ => (Severity.ofScalar value).map fun found => of found []

end RuleSetting

end ScriptLint
