import ScriptLint.Value.Record

/-!
# Severities

How much a finding weighs.  A rule that is off finds nothing, an advisory
finding is shown, and a blocking one fails the run.
-/

namespace ScriptLint

inductive Severity where
  | off
  | advisory
  | blocking
  deriving DecidableEq, Repr

namespace Severity

def name : Severity → String
  | .off => "off"
  | .advisory => "advisory"
  | .blocking => "blocking"

def isEnabled (severity : Severity) : Bool := severity ≠ .off

def all : List Severity := [.off, .advisory, .blocking]

def decode : Decoder Severity := Decoder.keyword (all.map fun severity => (severity.name, severity))

def encode (severity : Severity) : Value := .string severity.name

end Severity

end ScriptLint
