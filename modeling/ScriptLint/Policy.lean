import ScriptLint.Environment.Basic
import ScriptLint.Severity

/-!
# Policies

A policy is a finished configuration: what is in force when source files are
evaluated.  It binds rules, by their ids, to a severity and to options.
-/

namespace ScriptLint

structure RuleBinding where
  severity : Severity
  options : List Value

namespace RuleBinding

def record : Record RuleBinding :=
  RuleBinding.mk <$> .required "severity" Severity.decode
    <*> .defaulted "options" (Decoder.list Decoder.any) []

def decode : Decoder RuleBinding := record.decode "RuleBinding"

def encode (binding : RuleBinding) : Value :=
  .object [("severity", binding.severity.encode), ("options", .array binding.options)]

end RuleBinding

structure Policy where
  environments : NameSet
  capabilities : ParserCapabilities
  globals : Globals
  rules : Dictionary RuleBinding

namespace Policy

def activeBinding? (policy : Policy) (ruleId : String) : Option RuleBinding :=
  (policy.rules.get? ruleId).filter fun binding => binding.severity.isEnabled

/-- The severity of a rule; a rule that is not bound is off. -/
def severityOf (policy : Policy) (ruleId : String) : Severity :=
  ((policy.rules.get? ruleId).map RuleBinding.severity).getD .off

def record : Record Policy :=
  Policy.mk <$> .required "environments" Decoder.names
    <*> .required "parser_capabilities" ParserCapabilities.decode
    <*> .required "globals" (Decoder.dictionary AccessMode.decode)
    <*> .required "rules" (Decoder.dictionary RuleBinding.decode)

def decode : Decoder Policy := record.decode "Policy"

def encode (policy : Policy) : Value :=
  .object [("environments", .array (policy.environments.keys.map .string)),
    ("parser_capabilities", policy.capabilities.encode), ("globals", policy.globals.encode),
    ("rules", .object (policy.rules.entries.map fun entry => (entry.1, entry.2.encode)))]

end Policy

end ScriptLint
