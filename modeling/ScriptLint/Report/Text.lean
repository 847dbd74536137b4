import ScriptLint.Json.Writer
import ScriptLint.Report.CheckReport

/-!
# Reports as text

A summary with one line for each diagnostic, and the report as a JSON document.
-/

namespace ScriptLint

namespace CheckReport

def diagnosticLine (path : RepoPath) (diagnostic : Diagnostic) : String :=
  let line := Text.natural diagnostic.position.line
  let column := Text.natural diagnostic.position.column
  let severity := diagnostic.severity.name
  s!"{path.text}:{line}:{column} {severity} {diagnostic.ruleId} {diagnostic.message}\n"

def problems (report : CheckReport) : List (RepoPath × Diagnostic) :=
  report.files.flatMap fun file => file.diagnostics.map fun diagnostic => (file.path, diagnostic)

def totalLine (problems : Nat) (counts : SeverityCounts) : String :=
  if problems = 0 then "no problems\n"
  else
    let noun := if problems = 1 then "problem" else "problems"
    let blocking := Text.natural counts.blocking
    let advisory := Text.natural counts.advisory
    s!"\n{Text.natural problems} {noun} ({blocking} blocking, {advisory} advisory)\n"

/-- One line for each diagnostic in the order of the report, then the totals. -/
def summary (report : CheckReport) : String :=
  String.join (report.problems.map fun problem => diagnosticLine problem.1 problem.2) ++
    totalLine report.problems.length report.counts ++ s!"status: {report.status.name}\n"

def document (report : CheckReport) : String := Json.pretty report.encode ++ "\n"

end CheckReport

end ScriptLint
