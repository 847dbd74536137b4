import ScriptLint.Engine.Registry
import ScriptLint.Engine.Walk
import ScriptLint.Policy
import ScriptLint.Report.FileReport

/-!
# Evaluation

Evaluating a tree runs all rules that the policy switches on, in one walk.  A rule
that fails does not stop the run: what it reported in the failing step is
dropped, the failure is reported in its place, and the rule takes no further part.
-/

namespace ScriptLint

/-- A rule that takes part in a run, with its state as long as it has not failed. -/
structure ActiveRule where
  id : String
  severity : Severity
  rule : Rule
  state : Option rule.State

namespace Evaluation

def failureDiagnostic (id : String) (failure : Failure) (position : Position) : Diagnostic where
  ruleId := id
  code := "rule_internal_error"
  severity := .blocking
  message := s!"Rule '{id}' failed: {failure.message}"
  position := position
  fingerprint := none

def diagnosticOf (id : String) (severity : Severity) (finding : Finding) : Diagnostic where
  ruleId := id
  code := finding.code
  severity := severity
  message := finding.message
  position := finding.position
  fingerprint := none

end Evaluation

open Evaluation

namespace ActiveRule

/-- Runs one step of a rule that has not failed; `position` is where a failure is reported. -/
def call (active : ActiveRule) (position : Position)
    (hook : active.rule.State → Outcome active.rule.State) : ActiveRule × List Diagnostic :=
  match active.state with
  | none => (active, [])
  | some state =>
      let outcome := hook state
      match outcome.result with
      | .ok next =>
          ({ active with state := some next },
            outcome.findings.map (diagnosticOf active.id active.severity))
      | .error failure =>
          ({ active with state := none }, [failureDiagnostic active.id failure position])

def surroundings (active : ActiveRule) (policy : Policy) : Surroundings :=
  ⟨active.id, policy.globals, policy.capabilities⟩

def visit (policy : Policy) (active : ActiveRule) (event : Visit) :
    ActiveRule × List Diagnostic :=
  let node := event.target.node
  let context : Context :=
    ⟨active.surroundings policy, event.target.index, event.ancestors⟩
  if node.kind ∈ active.rule.interests then
    match event.phase with
    | .enter => active.call node.startPosition fun state => active.rule.enter state context node
    | .exit => active.call node.startPosition fun state => active.rule.exit state context node
  else (active, [])

def finish (policy : Policy) (position : Position) (active : ActiveRule) :
    ActiveRule × List Diagnostic :=
  active.call position fun state => active.rule.finish state (active.surroundings policy)

end ActiveRule

structure Run where
  active : List ActiveRule
  diagnostics : List Diagnostic

namespace Run

def advance (run : Run) (step : ActiveRule → ActiveRule × List Diagnostic) : Run :=
  let results := run.active.map step
  ⟨results.map (·.1), run.diagnostics ++ results.flatMap (·.2)⟩

def visit (policy : Policy) (run : Run) (event : Visit) : Run :=
  run.advance fun active => active.visit policy event

def start (policy : Policy) (position : Position) (rules : List RegisteredRule) : Run :=
  rules.foldl
    (fun run registered =>
      match policy.activeBinding? registered.id with
      | none => run
      | some binding =>
          match registered.rule.create binding.options with
          | .ok state =>
              { run with
                active := run.active ++
                  [⟨registered.id, binding.severity, registered.rule, some state⟩] }
          | .error failure =>
              { run with
                diagnostics := run.diagnostics ++
                  [failureDiagnostic registered.id failure position] })
    ⟨[], []⟩

end Run

namespace Registry

def findings (registry : Registry) (policy : Policy) (root : Node) : List Diagnostic :=
  let position := root.startPosition
  let started := Run.start policy position registry.rules
  let walked := walkTree (Run.visit policy) root started
  (walked.advance (ActiveRule.finish policy position)).diagnostics

def evaluate (registry : Registry) (policy : Policy) (tree : SyntaxTree) : FileReport :=
  .ofDiagnostics tree.path (registry.findings policy tree.root)

def evaluateAll (registry : Registry) (policy : Policy) (trees : List SyntaxTree) :
    List FileReport :=
  trees.map (registry.evaluate policy)

end Registry

end ScriptLint
