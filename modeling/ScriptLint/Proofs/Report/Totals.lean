import ScriptLint.Check
import ScriptLint.Proofs.Cascade.Blocks
import ScriptLint.Proofs.Engine.Contribution
import ScriptLint.Proofs.Engine.Weight
import ScriptLint.Proofs.Text.Digits
import ScriptLint.Report.Text

/-!
# Totals of a report

The report on a check sums up its diagnostics several times over: each file has a status
and counts, the whole report has both again, made from those of the files, and the
summary counts the diagnostics anew.  The sums agree because no diagnostic of a run
is off: a finding has the severity of an enabled rule, and a failure is blocking.
-/

namespace ScriptLint

/-! ## The worst status -/

namespace Status

theorem rank_worse (first second : Status) :
    (first.worse second).rank = max first.rank second.rank := by
  cases first <;> cases second <;> rfl

theorem rank_foldl_worse_le_iff (statuses : List Status) (start : Status) (bound : Nat) :
    (statuses.foldl worse start).rank ≤ bound ↔
      start.rank ≤ bound ∧ ∀ status ∈ statuses, status.rank ≤ bound := by
  induction statuses generalizing start with
  | nil => simp
  | cons status rest ih =>
      rw [List.foldl_cons, ih, rank_worse, Nat.max_le, List.forall_mem_cons, and_assoc]

theorem rank_worst_le_iff (statuses : List Status) (bound : Nat) :
    (worst statuses).rank ≤ bound ↔ ∀ status ∈ statuses, status.rank ≤ bound := by
  rw [worst, rank_foldl_worse_le_iff]
  exact and_iff_right (Nat.zero_le bound)

theorem rank_le_worst {statuses : List Status} {status : Status} (member : status ∈ statuses) :
    status.rank ≤ (worst statuses).rank :=
  (rank_worst_le_iff statuses _).mp (Nat.le_refl _) status member

theorem rank_le_zero_iff {status : Status} : status.rank ≤ 0 ↔ status = .clean := by
  cases status <;> decide

theorem rank_le_one_iff {status : Status} : status.rank ≤ 1 ↔ status ≠ .blocking := by
  cases status <;> decide

theorem worst_eq_clean_iff (statuses : List Status) :
    worst statuses = .clean ↔ ∀ status ∈ statuses, status = .clean := by
  simp only [← rank_le_zero_iff, rank_worst_le_iff]

theorem worst_eq_blocking_iff (statuses : List Status) :
    worst statuses = .blocking ↔ .blocking ∈ statuses := by
  have bounded := rank_worst_le_iff statuses 1
  simp only [rank_le_one_iff] at bounded
  rw [← not_iff_not]
  refine bounded.trans ⟨fun none member => none .blocking member rfl, ?_⟩
  intro absent status member same
  exact absent (same ▸ member)

theorem worst_mem {statuses : List Status} (nonempty : statuses ≠ []) :
    worst statuses ∈ statuses := by
  have folded (start : Status) (others : List Status) :
      others.foldl worse start ∈ start :: others := by
    induction others generalizing start with
    | nil => exact List.mem_singleton_self start
    | cons status rest ih =>
        rcases List.mem_cons.mp (ih (start.worse status)) with isWorse | inRest
        · rw [List.foldl_cons, isWorse, worse]
          split <;> simp
        · exact List.mem_cons_of_mem _ (List.mem_cons_of_mem _ inRest)
  cases statuses with
  | nil => exact absurd rfl nonempty
  | cons status rest =>
      have first : Status.clean.worse status = status := by cases status <;> rfl
      rw [worst, List.foldl_cons, first]
      exact folded status rest

theorem exitCode_eq_two_iff (status : Status) : status.exitCode = 2 ↔ status = .blocking := by
  cases status <;> decide

theorem ofDiagnostics_eq_clean_iff {diagnostics : List Diagnostic}
    (enabled : ∀ diagnostic ∈ diagnostics, diagnostic.severity ≠ .off) :
    ofDiagnostics diagnostics = .clean ↔ diagnostics = [] := by
  rw [ofDiagnostics, worst_eq_clean_iff, List.forall_mem_map]
  constructor
  · intro clean
    apply List.eq_nil_iff_forall_not_mem.mpr
    intro diagnostic member
    have severity := enabled diagnostic member
    have ofOff := clean diagnostic member
    cases own : diagnostic.severity <;> simp_all [ofSeverity]
  · rintro rfl diagnostic member
    cases member

theorem ofDiagnostics_eq_blocking_iff (diagnostics : List Diagnostic) :
    ofDiagnostics diagnostics = .blocking ↔
      ∃ diagnostic ∈ diagnostics, diagnostic.severity = .blocking := by
  rw [ofDiagnostics, worst_eq_blocking_iff, List.mem_map]
  refine exists_congr fun diagnostic => and_congr_right fun _ => ?_
  cases diagnostic.severity <;> decide

end Status

/-! ## Counts -/

namespace SeverityCounts

def total (counts : SeverityCounts) : Nat := counts.advisory + counts.blocking

theorem total_sum (counts : List SeverityCounts) : (sum counts).total = (counts.map total).sum := by
  have folded (start : SeverityCounts) :
      (counts.foldl add start).total = start.total + (counts.map total).sum := by
    induction counts generalizing start with
    | nil => simp
    | cons first rest ih =>
        rw [List.foldl_cons, ih, List.map_cons, List.sum_cons]
        simp only [total, add]
        omega
  rw [sum, folded]
  exact Nat.zero_add _

theorem total_ofDiagnostics {diagnostics : List Diagnostic}
    (enabled : ∀ diagnostic ∈ diagnostics, diagnostic.severity ≠ .off) :
    (ofDiagnostics diagnostics).total = diagnostics.length := by
  have single : ∀ diagnostic ∈ diagnostics, (ofSeverity diagnostic.severity).total = 1 := by
    intro diagnostic member
    have severity := enabled diagnostic member
    cases own : diagnostic.severity <;> simp_all [ofSeverity, total]
  have ones : diagnostics.map (total ∘ fun diagnostic => ofSeverity diagnostic.severity) =
      diagnostics.map fun _ => 1 := List.map_congr_left single
  rw [ofDiagnostics, total_sum, List.map_map, ones, List.map_const', List.sum_replicate_nat,
    Nat.mul_one]

end SeverityCounts

/-! ## Severities of a run -/

/-- The rule of the diagnostic is bound and not off, and the diagnostic has its severity. -/
def Policy.Weighs (policy : Policy) (diagnostic : Diagnostic) : Prop :=
  ∃ binding, policy.rules.get? diagnostic.ruleId = some binding ∧
    binding.severity.isEnabled = true ∧ diagnostic.severity = binding.severity

/-- The diagnostic is no finding of a rule: the run itself notes that the rule failed. -/
def Diagnostic.NotesFailure (path : RepoPath) (diagnostic : Diagnostic) : Prop :=
  ∃ failure position, diagnostic =
    (Evaluation.failureDiagnostic diagnostic.ruleId failure position).stamped path

theorem Registry.weighs_or_notesFailure {registry : Registry} {policy : Policy}
    {tree : SyntaxTree} {diagnostic : Diagnostic}
    (listed : diagnostic ∈ (registry.evaluate policy tree).diagnostics) :
    policy.Weighs diagnostic ∨ diagnostic.NotesFailure tree.path := by
  rw [evaluate_eq_map_transcript (.refl policy), List.mem_map] at listed
  obtain ⟨entry, inOrder, rfl⟩ := listed
  have reported : entry.diagnostic policy.severityOf ∈ registry.findings policy tree.root := by
    rw [findings_eq_map_transcript (.refl policy)]
    exact List.mem_map_of_mem (List.mem_mergeSort.mp inOrder)
  cases entry with
  | found id finding =>
      obtain ⟨registered, -, isId, binding, enabled⟩ := exists_enabled_of_mem_findings reported
      rw [isId] at enabled
      have severity := Policy.severity_of_activeBinding? enabled
      obtain ⟨bound, isEnabled⟩ := Option.filter_eq_some_iff.mp enabled
      exact .inl ⟨binding, bound, isEnabled, severity.symm⟩
  | failed id failure position => exact .inr ⟨failure, position, rfl⟩

theorem Policy.Weighs.ne_off {policy : Policy} {diagnostic : Diagnostic}
    (weighs : policy.Weighs diagnostic) : diagnostic.severity ≠ .off := by
  obtain ⟨binding, -, enabled, same⟩ := weighs
  rw [same]
  exact of_decide_eq_true enabled

theorem Diagnostic.NotesFailure.severity_eq {path : RepoPath} {diagnostic : Diagnostic}
    (notes : diagnostic.NotesFailure path) :
    diagnostic.severity = .blocking ∧ diagnostic.code = "rule_internal_error" := by
  obtain ⟨failure, position, same⟩ := notes
  rw [same]
  exact ⟨rfl, rfl⟩

theorem Registry.severity_ne_off {registry : Registry} {policy : Policy} {tree : SyntaxTree}
    {diagnostic : Diagnostic}
    (listed : diagnostic ∈ (registry.evaluate policy tree).diagnostics) :
    diagnostic.severity ≠ .off := by
  rcases weighs_or_notesFailure listed with weighs | notes
  · exact weighs.ne_off
  · simp [notes.severity_eq.1]

/-! ## What a summary says -/

namespace CheckReport

def lineBeforeLast (text : List Char) : List Char :=
  let backwards := text.reverse.tail.dropWhile (· ≠ '\n')
  (backwards.tail.takeWhile (· ≠ '\n')).reverse

theorem lineBeforeLast_append {before line last : List Char} (whole : '\n' ∉ line)
    (lastWhole : '\n' ∉ last) (starts : before = [] ∨ ∃ earlier, before = earlier ++ ['\n']) :
    lineBeforeLast (before ++ line ++ '\n' :: (last ++ ['\n'])) = line := by
  have clear {text : List Char} (absent : '\n' ∉ text) :
      ∀ character ∈ text.reverse, decide (character ≠ '\n') = true := by
    intro character member
    refine decide_eq_true fun same => absent ?_
    rw [← same]
    exact List.mem_reverse.mp member
  have backwards : (before ++ line ++ '\n' :: (last ++ ['\n'])).reverse.tail =
      last.reverse ++ '\n' :: (line.reverse ++ before.reverse) := by simp
  have stops : before.reverse.takeWhile (fun character => decide (character ≠ '\n')) = [] := by
    rcases starts with rfl | ⟨earlier, rfl⟩ <;> simp
  simp only [lineBeforeLast]
  rw [backwards, List.dropWhile_append_of_pos (clear lastWhole),
    List.dropWhile_cons_of_neg (by simp), List.tail_cons,
    List.takeWhile_append_of_pos (clear whole), stops, List.append_nil, List.reverse_reverse]

def totalsLine (summary : String) : List Char := lineBeforeLast summary.toList

/-- The number of problems that a summary gives; a line without a number gives none. -/
def printedProblems (summary : String) : Nat :=
  Text.readDigits ((totalsLine summary).takeWhile Text.isDecimalDigit)

theorem lineBreak_notMem_natural (number : Nat) : '\n' ∉ Text.decimalDigits number :=
  fun member => absurd (Text.isDecimalDigit_of_mem_decimalDigits member) (by decide)

theorem lineBreak_notMem_status (status : Status) :
    '\n' ∉ (s!"status: {status.name}").toList := by
  cases status <;> decide

theorem totalsLine_of_nil {report : CheckReport} (clear : report.problems = []) :
    totalsLine report.summary = "no problems".toList := by
  have whole : report.summary.toList = [] ++ "no problems".toList ++
      '\n' :: ((s!"status: {report.status.name}").toList ++ ['\n']) := by
    simp [summary, totalLine, clear, ToString.toString]
  rw [totalsLine, whole]
  exact lineBeforeLast_append (by decide) (lineBreak_notMem_status report.status) (.inl rfl)

theorem totalsLine_of_ne_nil {report : CheckReport} (found : report.problems ≠ []) :
    ∃ rest, totalsLine report.summary =
      Text.decimalDigits report.problems.length ++ ' ' :: rest := by
  have counted : report.problems.length ≠ 0 := fun empty => found (List.length_eq_zero_iff.mp empty)
  obtain ⟨noun, isNoun, nounWhole⟩ : ∃ noun : List Char,
      (if report.problems.length = 1 then "problem" else "problems").toList = noun ∧
        '\n' ∉ noun := by
    refine ⟨_, rfl, ?_⟩
    split <;> decide
  let rest : List Char := noun ++ " (".toList ++ Text.decimalDigits report.counts.blocking ++
    " blocking, ".toList ++ Text.decimalDigits report.counts.advisory ++ " advisory)".toList
  refine ⟨rest, ?_⟩
  have whole : report.summary.toList =
      (String.join (report.problems.map fun problem =>
        diagnosticLine problem.1 problem.2)).toList ++ ['\n'] ++
        (Text.decimalDigits report.problems.length ++ ' ' :: rest) ++
        '\n' :: ((s!"status: {report.status.name}").toList ++ ['\n']) := by
    simp [summary, totalLine, counted, rest, ← isNoun, ToString.toString]
  rw [totalsLine, whole]
  refine lineBeforeLast_append ?_ (lineBreak_notMem_status report.status) (.inr ⟨_, rfl⟩)
  simp [rest, nounWhole, lineBreak_notMem_natural]

theorem printedProblems_summary (report : CheckReport) :
    printedProblems report.summary = report.problems.length := by
  by_cases clear : report.problems = []
  · rw [printedProblems, totalsLine_of_nil clear, clear]
    rfl
  · obtain ⟨rest, line⟩ := totalsLine_of_ne_nil clear
    rw [printedProblems, line, List.takeWhile_append_of_pos fun _ member =>
      Text.isDecimalDigit_of_mem_decimalDigits member]
    rw [List.takeWhile_cons_of_neg (by decide), List.append_nil, Text.readDigits_decimalDigits]

theorem totalsLine_eq_noProblems_iff (report : CheckReport) :
    totalsLine report.summary = "no problems".toList ↔ report.problems = [] := by
  refine ⟨fun line => ?_, totalsLine_of_nil⟩
  have printed := printedProblems_summary report
  rw [printedProblems, line] at printed
  exact List.length_eq_zero_iff.mp printed.symm

end CheckReport

/-! ## Whole reports -/

/-- How the parts of a report fit together that is made of trees under a policy. -/
structure CheckReport.FitsTogether (report : CheckReport) (registry : Registry) (policy : Policy)
    (trees : List SyntaxTree) : Prop where
  files : report.files = trees.map (registry.evaluate policy) ∧
    report.files.map (·.path) = trees.map (·.path)
  weighed : ∀ file ∈ report.files, ∀ diagnostic ∈ file.diagnostics,
    (policy.Weighs diagnostic ∨
      diagnostic.NotesFailure file.path ∧ diagnostic.severity = .blocking ∧
        diagnostic.code = "rule_internal_error") ∧
      diagnostic.severity ≠ .off
  fileCounts : ∀ file ∈ report.files,
    file.counts.advisory + file.counts.blocking = file.diagnostics.length
  counts : report.counts.advisory + report.counts.blocking =
    (report.files.map fun file => file.diagnostics.length).sum
  worst : (∀ file ∈ report.files, file.status.rank ≤ report.status.rank) ∧
    (report.files ≠ [] → ∃ file ∈ report.files, file.status = report.status)
  clean : report.status = .clean ↔ ∀ file ∈ report.files, file.diagnostics = []
  exitCode : report.status.exitCode = 2 ↔
    ∃ file ∈ report.files, ∃ diagnostic ∈ file.diagnostics, diagnostic.severity = .blocking
  printed : CheckReport.printedProblems report.summary =
    report.counts.blocking + report.counts.advisory
  noProblems : CheckReport.totalsLine report.summary = "no problems".toList ↔
    report.status = .clean

namespace CheckReport

theorem length_problems (report : CheckReport) :
    report.problems.length = (report.files.map fun file => file.diagnostics.length).sum := by
  simp [problems, List.length_flatMap]

theorem problems_eq_nil_iff (report : CheckReport) :
    report.problems = [] ↔ ∀ file ∈ report.files, file.diagnostics = [] := by
  simp [problems, List.flatMap_eq_nil_iff]

end CheckReport

namespace Registry

variable (registry : Registry) (policy : Policy)

theorem total_counts_evaluate (tree : SyntaxTree) :
    (registry.evaluate policy tree).counts.total =
      (registry.evaluate policy tree).diagnostics.length := by
  apply SeverityCounts.total_ofDiagnostics
  intro diagnostic listed
  exact @severity_ne_off registry policy tree diagnostic listed

theorem status_evaluate_eq_clean_iff (tree : SyntaxTree) :
    (registry.evaluate policy tree).status = .clean ↔
      (registry.evaluate policy tree).diagnostics = [] := by
  apply Status.ofDiagnostics_eq_clean_iff
  intro diagnostic listed
  exact @severity_ne_off registry policy tree diagnostic listed

theorem forall_mem_evaluateAll {property : FileReport → Prop} {trees : List SyntaxTree} :
    (∀ file ∈ registry.evaluateAll policy trees, property file) ↔
      ∀ tree ∈ trees, property (registry.evaluate policy tree) :=
  List.forall_mem_map

theorem total_totalCounts_evaluateAll (trees : List SyntaxTree) :
    (FileReport.totalCounts (registry.evaluateAll policy trees)).total =
      ((registry.evaluateAll policy trees).map fun file => file.diagnostics.length).sum := by
  rw [FileReport.totalCounts, SeverityCounts.total_sum, List.map_map]
  refine congrArg List.sum (List.map_congr_left ?_)
  exact (registry.forall_mem_evaluateAll policy).mpr fun tree _ =>
    registry.total_counts_evaluate policy tree

theorem overallStatus_evaluateAll_eq_clean_iff (trees : List SyntaxTree) :
    FileReport.overallStatus (registry.evaluateAll policy trees) = .clean ↔
      ∀ file ∈ registry.evaluateAll policy trees, file.diagnostics = [] := by
  rw [FileReport.overallStatus, Status.worst_eq_clean_iff, List.forall_mem_map]
  refine forall₂_congr ?_
  exact (registry.forall_mem_evaluateAll policy).mpr fun tree _ =>
    registry.status_evaluate_eq_clean_iff policy tree

theorem overallStatus_evaluateAll_eq_blocking_iff (trees : List SyntaxTree) :
    FileReport.overallStatus (registry.evaluateAll policy trees) = .blocking ↔
      ∃ file ∈ registry.evaluateAll policy trees, ∃ diagnostic ∈ file.diagnostics,
        diagnostic.severity = .blocking := by
  rw [FileReport.overallStatus, Status.worst_eq_blocking_iff, List.mem_map]
  refine exists_congr fun file => and_congr_right fun member => ?_
  obtain ⟨tree, -, rfl⟩ := List.mem_map.mp member
  exact Status.ofDiagnostics_eq_blocking_iff _

end Registry

theorem FileReport.overallStatus_isWorst (files : List FileReport) :
    (∀ file ∈ files, file.status.rank ≤ (overallStatus files).rank) ∧
      (files ≠ [] → ∃ file ∈ files, file.status = overallStatus files) := by
  constructor
  · intro file member
    exact Status.rank_le_worst (List.mem_map_of_mem member)
  · intro nonempty
    have isOne : overallStatus files ∈ files.map (·.status) :=
      Status.worst_mem (by simpa using nonempty)
    exact List.mem_map.mp isOne

namespace Registry

theorem check_eq_ok {registry : Registry} {version : String} {run : RunTimes} {input : CheckInput}
    {output : CheckOutput} (succeeds : registry.check version run input = .ok output) :
    output.report = .ofFiles version run output.resolution.layers
      (registry.evaluateAll output.resolution.policy input.trees) := by
  unfold check at succeeds
  split at succeeds
  · cases succeeds
  · split at succeeds
    · cases succeeds
    · cases succeeds
      rfl

/--
In the report of a check that succeeds, severities are those of the policy, or blocking for
what the run itself notes, and never off; so counts, statuses, exit code and summary, of each
file and of all, sum up the same diagnostics.
-/
theorem check_report_fitsTogether {registry : Registry} {version : String} {run : RunTimes}
    {input : CheckInput} {output : CheckOutput}
    (succeeds : registry.check version run input = .ok output) :
    output.report.FitsTogether registry output.resolution.policy input.trees := by
  have isReport := check_eq_ok succeeds
  generalize output.report = report, output.resolution.policy = policy,
    output.resolution.layers = layers, input.trees = trees at isReport ⊢
  subst isReport
  have counts := registry.total_totalCounts_evaluateAll policy trees
  have clean := registry.overallStatus_evaluateAll_eq_clean_iff policy trees
  refine
    { files := ⟨rfl, by simp [CheckReport.ofFiles, evaluateAll, evaluate_path]⟩
      weighed := (registry.forall_mem_evaluateAll policy).mpr fun tree _ diagnostic listed => ?_
      fileCounts := (registry.forall_mem_evaluateAll policy).mpr fun tree _ =>
        registry.total_counts_evaluate policy tree
      counts := counts
      worst := FileReport.overallStatus_isWorst _
      clean := clean
      exitCode := ?_
      printed := ?_
      noProblems := ?_ }
  · refine ⟨(weighs_or_notesFailure listed).imp_right fun notes => ?_, severity_ne_off listed⟩
    exact ⟨notes, notes.severity_eq⟩
  · rw [Status.exitCode_eq_two_iff]
    exact registry.overallStatus_evaluateAll_eq_blocking_iff policy trees
  · rw [CheckReport.printedProblems_summary, CheckReport.length_problems, Nat.add_comm]
    exact counts.symm
  · rw [CheckReport.totalsLine_eq_noProblems_iff, CheckReport.problems_eq_nil_iff]
    exact clean.symm

/-- A check that finds a statement, and notes that a rule fails on a literal without text. -/
theorem check_finding_and_failing :
    let registry := (empty.add none Rules.NoDebugger.rule).add none Rules.QuoteStyle.rule
    let tree : SyntaxTree := ⟨⟨"a.js"⟩, Build.node .program .empty
      [Build.statement .debuggerStatement [] true, Build.node .stringLiteral .empty []]⟩
    let moment : Timestamp := ⟨2026, 1, 1, 0, 0, 0, 0, 0⟩
    let input : CheckInput := { CheckInput.of "policy.json" "" [tree] with
      overrides := ⟨[], ∅, .ofList [("no-debugger", .string "warn"),
        ("quote-style", .string "warn")]⟩ }
    ∃ output, registry.check "1.0.0" ⟨moment, moment, 0⟩ input = .ok output ∧
      (registry.findings output.resolution.policy tree.root).map (·.severity) =
        [.advisory, .blocking] ∧
      output.report.FitsTogether registry output.resolution.policy [tree] := by
  intro registry tree moment input
  let policy : Policy := ⟨∅, .default, ∅,
    .ofList [("no-debugger", ⟨.advisory, []⟩), ("quote-style", ⟨.advisory, []⟩)]⟩
  have noReferences : Expansion.ofReferences registry ∅ "policy.json" []
      PolicyDocument.empty.references = .ok [] := by
    rw [show PolicyDocument.empty.references = [] from rfl, Expansion.ofReferences]
  have resolved : Resolution.resolve registry ∅ "policy.json" .empty input.overrides =
      .ok ⟨policy, ["policy.json", Overrides.layerName]⟩ := by
    rw [Resolution.resolve, Resolution.cascade, Layer.expand_eq, noReferences]
    rfl
  have severities : (registry.findings policy tree.root).map (·.severity) =
      [.advisory, .blocking] := by
    rw [findings, walkTree_eq_foldl]
    decide
  have succeeds : registry.check "1.0.0" ⟨moment, moment, 0⟩ input =
      .ok ⟨.ofFiles "1.0.0" ⟨moment, moment, 0⟩ ["policy.json", Overrides.layerName]
        (registry.evaluateAll policy [tree]), ⟨policy, ["policy.json", Overrides.layerName]⟩⟩ := by
    rw [check, show input.document = .ok .empty from rfl]
    simp only [input, CheckInput.of] at resolved ⊢
    rw [resolved]
  exact ⟨_, succeeds, severities, check_report_fitsTogether succeeds⟩

end Registry

end ScriptLint
