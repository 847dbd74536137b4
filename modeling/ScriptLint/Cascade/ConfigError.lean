import ScriptLint.Cascade.RuleSetting
import ScriptLint.Rule.Options

/-!
# Configuration errors

Why a configuration cannot be used.  Every error names the layer it comes from.
-/

namespace ScriptLint

inductive ParseFault where
  | malformed
  | undecodable (cause : DecodeError)

def ParseFault.message : ParseFault → String
  | .malformed => "malformed document"
  | .undecodable cause => cause.message

structure UnknownMode where
  name : String
  deriving DecidableEq, Repr

def UnknownMode.message (error : UnknownMode) : String :=
  s!"expected readonly|writable or a boolean, found {Text.quoted error.name}"

inductive CapabilityFault where
  | unsupportedVersion (number : Nat)
  | unknownVersion (name : String)
  | combined
  | unknownSourceType (name : String)
  deriving DecidableEq, Repr

namespace CapabilityFault

def key : CapabilityFault → String
  | .unsupportedVersion _ => "syntaxVersion"
  | .unknownVersion _ => "syntaxVersion"
  | .combined => "moduleMode"
  | .unknownSourceType _ => "sourceType"

def message : CapabilityFault → String
  | .unsupportedVersion number => s!"unsupported version {Text.natural number}"
  | .unknownVersion name => s!"expected a number or \"latest\", found {Text.quoted name}"
  | .combined => "cannot be combined with sourceType"
  | .unknownSourceType name => s!"expected script|commonjs|module, found {Text.quoted name}"

end CapabilityFault

inductive ConfigFault where
  | unknownRule (rule : String)
  | unknownEnvironment (environment : String)
  | invalidOptions (rule : String) (cause : OptionsError)
  | invalidSeverity (rule : String) (cause : SettingError)
  | unknownPlugin (plugin : String)
  | invalidGlobal (name : String) (cause : UnknownMode)
  | invalidCapability (cause : CapabilityFault)
  | unresolvedExtends (reference : String)
  /-- The names on the way from the root to the one that is met again. -/
  | extendsCycle (chain : List String)
  | parse (cause : ParseFault)

structure ConfigError where
  layer : String
  fault : ConfigFault

namespace ConfigFault

def key? : ConfigFault → Option String
  | .unknownRule rule => some rule
  | .unknownEnvironment environment => some environment
  | .invalidOptions rule _ => some rule
  | .invalidSeverity rule _ => some rule
  | .unknownPlugin plugin => some plugin
  | .invalidGlobal name _ => some name
  | .invalidCapability cause => some cause.key
  | .unresolvedExtends reference => some reference
  | .extendsCycle _ => none
  | .parse _ => none

def message : ConfigFault → String
  | .unknownRule rule => s!"unknown rule '{rule}'"
  | .unknownEnvironment environment => s!"unknown environment '{environment}'"
  | .invalidOptions rule cause => s!"invalid options for rule '{rule}': {cause.message}"
  | .invalidSeverity rule cause => s!"invalid severity for rule '{rule}': {cause.message}"
  | .unknownPlugin plugin => s!"unknown plugin '{plugin}'"
  | .invalidGlobal name cause => s!"invalid global '{name}': {cause.message}"
  | .invalidCapability cause =>
      s!"invalid parser capability '{cause.key}': {cause.message}"
  | .unresolvedExtends reference => s!"cannot resolve extends '{reference}'"
  | .extendsCycle chain => "extends cycle: " ++ " -> ".intercalate chain
  | .parse cause => cause.message

end ConfigFault

namespace ConfigError

def key? (error : ConfigError) : Option String := error.fault.key?

def message (error : ConfigError) : String := s!"{error.layer}: {error.fault.message}"

end ConfigError

end ScriptLint
