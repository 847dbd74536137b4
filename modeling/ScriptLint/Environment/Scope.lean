import ScriptLint.Environment.Catalog

/-!
# Global scope

The globals and capabilities in force are the join of all declared
environments and the one that is always in force.
-/

namespace ScriptLint

structure UnknownEnvironment where
  id : String
  deriving DecidableEq, Repr

def UnknownEnvironment.message (error : UnknownEnvironment) : String :=
  s!"unknown environment: {error.id}"

namespace EnvironmentTable

def joinAll (table : EnvironmentTable) (scope : Environment) :
    List String → Except UnknownEnvironment Environment
  | [] => .ok scope
  | id :: rest =>
      match table.get? id with
      | none => .error ⟨id⟩
      | some environment => joinAll table (scope.join environment) rest

/-- Resolves declared environments; of several unknown ones the least name is reported. -/
def resolve (table : EnvironmentTable) (environments : NameSet) :
    Except UnknownEnvironment Environment :=
  let start := ((table.get? alwaysInForce).map Environment.empty.join).getD .empty
  joinAll table start environments.keys

end EnvironmentTable

end ScriptLint
