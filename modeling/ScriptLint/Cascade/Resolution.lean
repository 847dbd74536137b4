import ScriptLint.Cascade.Expansion
import ScriptLint.Cascade.Merge

/-!
# Resolution

A document with all that it extends, and what the caller lays over it, comes to one
policy.
-/

namespace ScriptLint

structure Overrides where
  environments : List String
  globals : Dictionary GlobalDeclaration
  rules : Dictionary Value

namespace Overrides

def none : Overrides := ⟨[], ∅, ∅⟩

def isEmpty (overrides : Overrides) : Bool :=
  overrides.environments.isEmpty && overrides.globals.isEmpty && overrides.rules.isEmpty

def layerName : String := "<overrides>"

def document (overrides : Overrides) : PolicyDocument :=
  { PolicyDocument.empty with
    environments :=
      if overrides.environments.isEmpty then .none else some (.list overrides.environments)
    globals := overrides.globals
    rules := overrides.rules }

/-- Overrides that say nothing are no layer. -/
def layers (registry : Registry) (overrides : Overrides) : Except ConfigError (List Layer) :=
  if overrides.isEmpty then .ok []
  else
    match Layer.ofDocument registry layerName .localOverride overrides.document with
    | .error error => .error error
    | .ok layer => .ok [layer]

end Overrides

structure Resolution where
  policy : Policy
  layers : List String

namespace Resolution

def cascade (registry : Registry) (sources : Sources) (name : String)
    (document : PolicyDocument) (overrides : Overrides) : Except ConfigError (List Layer) :=
  match Layer.expand registry sources name document with
  | .error error => .error error
  | .ok expanded =>
      match overrides.layers registry with
      | .error error => .error error
      | .ok last => .ok (expanded ++ last)

def resolve (registry : Registry) (sources : Sources) (name : String)
    (document : PolicyDocument) (overrides : Overrides) : Except ConfigError Resolution :=
  match cascade registry sources name document overrides with
  | .error error => .error error
  | .ok layers =>
      match Layer.resolve registry layers with
      | .error error => .error error
      | .ok policy => .ok ⟨policy, layers.map (·.name)⟩

end Resolution

end ScriptLint
