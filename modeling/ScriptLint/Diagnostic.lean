import ScriptLint.Position
import ScriptLint.Severity

/-!
# Diagnostics

A diagnostic is one finding of one rule.  Its fingerprint is absent until the
report of its file is put together.
-/

namespace ScriptLint

structure Diagnostic where
  ruleId : String
  code : String
  severity : Severity
  message : String
  position : Position
  fingerprint : Option String
  deriving DecidableEq, Repr

namespace Diagnostic

def record : Record Diagnostic :=
  Diagnostic.mk <$> .required "rule_id" Decoder.text <*> .required "code" Decoder.text
    <*> .required "severity" Severity.decode <*> .required "message" Decoder.text
    <*> .required "position" Position.decode
    <*> .defaulted "fingerprint" (Decoder.optional Decoder.text) none

def decode : Decoder Diagnostic := record.decode "Diagnostic"

def encode (diagnostic : Diagnostic) : Value :=
  .object ([("rule_id", .string diagnostic.ruleId), ("code", .string diagnostic.code),
    ("severity", diagnostic.severity.encode), ("message", .string diagnostic.message),
    ("position", diagnostic.position.encode)] ++
    (diagnostic.fingerprint.map fun text => ("fingerprint", Value.string text)).toList)

/-! ## Order -/

/-- By line, column, rule, code and message; severity and span do not count. -/
def compare (first second : Diagnostic) : Ordering :=
  (Ord.compare first.position.line second.position.line).then <|
    (Ord.compare first.position.column second.position.column).then <|
      (Ord.compare first.ruleId second.ruleId).then <|
        (Ord.compare first.code second.code).then (Ord.compare first.message second.message)

def notAfter (first second : Diagnostic) : Bool := (first.compare second).isLE

end Diagnostic

end ScriptLint
