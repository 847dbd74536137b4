import ScriptLint.Cascade.Resolution
import ScriptLint.Engine.Evaluation
import ScriptLint.Report.CheckReport
import ScriptLint.Text.Classes

/-!
# Checking files

A check reads a policy, resolves it once, evaluates all trees with it and sums up
what was found.
-/

namespace ScriptLint

/-! ## The format of a policy -/

namespace SourceFormat

def segments : List Char → List (List Char)
  | [] => [[]]
  | character :: rest =>
      match segments rest with
      | [] => [[character]]
      | first :: others =>
          if character = '/' then [] :: first :: others
          else (character :: first) :: others

/-- The last segment of a path that names anything; a step upwards names no file. -/
def fileName? (path : List Char) : Option (List Char) :=
  let named := (segments path).filter fun segment => segment ≠ [] ∧ segment ≠ ['.']
  named.getLast?.filter (· ≠ ['.', '.'])

/-- What follows the last dot of a file name, unless nothing stands before the dot. -/
def extension? (name : List Char) : Option (List Char) :=
  let reversed := name.reverse
  match reversed.dropWhile (· != '.') with
  | [] => none
  | [_] => none
  | _ :: _ => some (reversed.takeWhile (· != '.')).reverse

def ofPath (path : String) : SourceFormat :=
  if (fileName? path.toList).bind extension? = some ['t', 'o', 'm', 'l'] then .toml else .json

end SourceFormat

/-! ## Checks -/

structure CheckInput where
  name : String
  policy : String
  format : SourceFormat
  sources : Sources
  overrides : Overrides
  trees : List SyntaxTree

inductive CheckStep where
  | parsePolicy
  | resolvePolicy
  deriving DecidableEq, Repr

def CheckStep.name : CheckStep → String
  | .parsePolicy => "parse policy"
  | .resolvePolicy => "resolve policy"

structure CheckFailure where
  step : CheckStep
  error : ConfigError

structure CheckOutput where
  report : CheckReport
  resolution : Resolution

namespace CheckInput

def of (name policy : String) (trees : List SyntaxTree) : CheckInput :=
  ⟨name, policy, .ofPath name, ∅, .none, trees⟩

def document (input : CheckInput) : Except ConfigError PolicyDocument :=
  if Text.isBlankText input.policy then .ok .empty
  else (Source.text input.format input.policy).parse input.name

end CheckInput

namespace CheckReport

def ofFiles (version : String) (run : RunTimes) (layers : List String)
    (files : List FileReport) : CheckReport where
  schema := schemaId
  tool := ⟨toolName, version⟩
  run := run
  status := FileReport.overallStatus files
  counts := FileReport.totalCounts files
  layers := layers
  files := files

end CheckReport

def Registry.check (registry : Registry) (version : String) (run : RunTimes)
    (input : CheckInput) : Except CheckFailure CheckOutput :=
  match input.document with
  | .error error => .error ⟨.parsePolicy, error⟩
  | .ok document =>
      match Resolution.resolve registry input.sources input.name document input.overrides with
      | .error error => .error ⟨.resolvePolicy, error⟩
      | .ok resolution =>
          let files := registry.evaluateAll resolution.policy input.trees
          .ok ⟨.ofFiles version run resolution.layers files, resolution⟩

end ScriptLint
