import ScriptLint.Pattern.Basic
import ScriptLint.Value.Decoder

/-!
# Rule options

The options of a rule are a list of values, each of which has a meaning by its
position.  A rule reads the positions it knows and rejects a longer list.
-/

namespace ScriptLint

inductive OptionFault where
  | undecodable (cause : DecodeError)
  | badPattern (source explanation : String)

def OptionFault.message : OptionFault → String
  | .undecodable cause => cause.message
  | .badPattern source explanation => s!"invalid pattern {Text.quoted source}: {explanation}"

inductive OptionsError where
  | tooMany (most found : Nat)
  | invalid (index : Nat) (fault : OptionFault)

def OptionsError.message : OptionsError → String
  | .tooMany most found =>
      s!"expected at most {Text.natural most} option(s), found {Text.natural found}"
  | .invalid index fault => s!"option {Text.natural index}: {fault.message}"

namespace RuleOptions

def atMost (options : List Value) (most : Nat) : Except OptionsError Unit :=
  if most < options.length then .error (.tooMany most options.length) else .ok ()

def slot {α : Type} (options : List Value) (index : Nat) (decode : Decoder α) (default : α) :
    Except OptionsError α :=
  match options[index]? with
  | none => .ok default
  | some value =>
      match decode value with
      | .ok result => .ok result
      | .error cause => .error (.invalid index (.undecodable cause))

section Patterns

variable (engine : PatternEngine)

def pattern (index : Nat) (source : String) : Except OptionsError engine.Compiled :=
  match engine.compile source with
  | .ok compiled => .ok compiled
  | .error explanation => .error (.invalid index (.badPattern source explanation))

def optionalPattern (index : Nat) : Option String → Except OptionsError (Option engine.Compiled)
  | none => .ok none
  | some source => (pattern engine index source).map some

def patterns (index : Nat) (sources : List String) : Except OptionsError (List engine.Compiled) :=
  sources.mapM (pattern engine index)

end Patterns

end RuleOptions

end ScriptLint
