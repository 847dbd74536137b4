import ScriptLint.Proofs.Engine.Isolation
import ScriptLint.Syntax.Build

/-!
# Findings and their severity

A severity is put on a finding when it is reported and is not looked at again until the
report is summed up.  So a run can be written down without severities, as a list of what
rules found and of where they failed, and the report on it is this list in order, each
finding with the severity that the policy has for its rule.  Two policies that differ in
nothing but the severities of enabled rules have one such list.
-/

namespace ScriptLint

/-! ## Policies that differ in severities -/

structure RuleBinding.SameButSeverity (first second : RuleBinding) : Prop where
  options : first.options = second.options
  severity : first.severity = second.severity ∨
    first.severity.isEnabled = true ∧ second.severity.isEnabled = true

namespace Policy

structure SameButSeverities (policy other : Policy) : Prop where
  environments : policy.environments = other.environments
  capabilities : policy.capabilities = other.capabilities
  globals : policy.globals = other.globals
  bindings : ∀ id,
    Option.Rel RuleBinding.SameButSeverity (policy.rules.get? id) (other.rules.get? id)

theorem severity_of_activeBinding? {policy : Policy} {id : String} {binding : RuleBinding}
    (enabled : policy.activeBinding? id = some binding) :
    binding.severity = policy.severityOf id := by
  rw [activeBinding?, Option.filter_eq_some_iff] at enabled
  simp [severityOf, enabled.1]

theorem SameButSeverities.options {policy other : Policy}
    (alike : policy.SameButSeverities other) (id : String) :
    (policy.activeBinding? id).map RuleBinding.options =
      (other.activeBinding? id).map RuleBinding.options := by
  rw [activeBinding?, activeBinding?]
  generalize policy.rules.get? id = bound, other.rules.get? id = otherBound,
    alike.bindings id = related
  cases related with
  | none => rfl
  | @some first second same =>
      have together : first.severity.isEnabled = second.severity.isEnabled := by
        rcases same.severity with equal | ⟨enabled, enabledToo⟩
        · rw [equal]
        · rw [enabled, enabledToo]
      cases enabled : second.severity.isEnabled <;>
        simp [Option.filter, together, enabled, same.options]

end Policy

/-! ## Entries -/

namespace Evaluation

/-- What is found in a run, without the severity that it is reported with. -/
inductive Entry where
  | found (ruleId : String) (finding : Finding)
  | failed (ruleId : String) (failure : Failure) (position : Position)

namespace Entry

def diagnostic (severityOf : String → Severity) : Entry → Diagnostic
  | .found id finding => diagnosticOf id (severityOf id) finding
  | .failed id failure position => failureDiagnostic id failure position

def notAfter (first second : Entry) : Bool :=
  (first.diagnostic fun _ => .off).notAfter (second.diagnostic fun _ => .off)

theorem notAfter_diagnostic (severityOf : String → Severity) (first second : Entry) :
    (first.diagnostic severityOf).notAfter (second.diagnostic severityOf) =
      first.notAfter second := by
  cases first <;> cases second <;> rfl

theorem stamped_agree (severityOf otherSeverityOf : String → Severity) (path : RepoPath)
    (entry : Entry) :
    let one := (entry.diagnostic severityOf).stamped path
    let two := (entry.diagnostic otherSeverityOf).stamped path
    one.ruleId = two.ruleId ∧ one.code = two.code ∧ one.message = two.message ∧
      one.position = two.position ∧ one.fingerprint = two.fingerprint := by
  cases entry <;> exact ⟨rfl, rfl, rfl, rfl, rfl⟩

theorem map_mergeSort (severityOf : String → Severity) (entries : List Entry) :
    (entries.map (diagnostic severityOf)).mergeSort Diagnostic.notAfter =
      (entries.mergeSort notAfter).map (diagnostic severityOf) :=
  (List.map_mergeSort fun first _ second _ =>
    (notAfter_diagnostic severityOf first second).symm).symm

end Entry

def entriesOf {σ : Type} (id : String) (position : Position) (outcome : Outcome σ) : List Entry :=
  match outcome.result with
  | .ok _ => outcome.findings.map (.found id)
  | .error failure => [.failed id failure position]

theorem reported_eq_map {σ : Type} (severityOf : String → Severity) (id : String)
    (position : Position) (outcome : Outcome σ) :
    reported id (severityOf id) position outcome =
      (entriesOf id position outcome).map (Entry.diagnostic severityOf) := by
  rw [reported, entriesOf]
  cases outcome.result with
  | ok next => simp [Function.comp_def, Entry.diagnostic]
  | error failure => rfl

end Evaluation

open Evaluation

namespace ActiveRule

def withSeverity (severityOf : String → Severity) (active : ActiveRule) : ActiveRule :=
  { active with severity := severityOf active.id }

def entriesOfCall (active : ActiveRule) (position : Position)
    (hook : active.rule.State → Outcome active.rule.State) : List Entry :=
  match active.state with
  | none => []
  | some state => entriesOf active.id position (hook state)

def entriesOfVisit (policy : Policy) (active : ActiveRule) (event : Visit) : List Entry :=
  if active.rule.wants event then
    active.entriesOfCall event.target.node.startPosition
      (active.rule.respond (active.surroundings policy) event)
  else []

def entriesOfFinish (policy : Policy) (position : Position) (active : ActiveRule) : List Entry :=
  active.entriesOfCall position fun state => active.rule.finish state (active.surroundings policy)

theorem call_withSeverity (severityOf : String → Severity) (active : ActiveRule)
    (position : Position) (hook : active.rule.State → Outcome active.rule.State) :
    (active.withSeverity severityOf).call position hook =
      ((active.call position hook).1.withSeverity severityOf,
        (active.entriesOfCall position hook).map (Entry.diagnostic severityOf)) := by
  obtain ⟨id, severity, rule, state⟩ := active
  cases state with
  | none => rfl
  | some state =>
      have reports := reported_eq_map severityOf id position (hook state)
      rw [reported] at reports
      simp only [withSeverity, call, entriesOfCall, ← reports]
      cases (hook state).result <;> rfl

section Alike

variable {policy other : Policy}

theorem surroundings_of_alike (alike : policy.SameButSeverities other) (active : ActiveRule) :
    active.surroundings other = active.surroundings policy := by
  rw [surroundings, surroundings, alike.globals, alike.capabilities]

theorem visit_withSeverity (alike : policy.SameButSeverities other) (active : ActiveRule)
    (event : Visit) :
    (active.withSeverity other.severityOf).visit other event =
      ((active.visit policy event).1.withSeverity other.severityOf,
        (active.entriesOfVisit policy event).map (Entry.diagnostic other.severityOf)) := by
  have same : (active.withSeverity other.severityOf).surroundings other =
      active.surroundings policy := active.surroundings_of_alike alike
  rw [visit_eq, visit_eq, entriesOfVisit, same]
  cases interested : active.rule.wants event with
  | false => simp [withSeverity, interested]
  | true =>
      have called := call_withSeverity other.severityOf active event.target.node.startPosition
        (active.rule.respond (active.surroundings policy) event)
      simpa [withSeverity, interested] using called

theorem finish_withSeverity (alike : policy.SameButSeverities other) (position : Position)
    (active : ActiveRule) :
    (active.withSeverity other.severityOf).finish other position =
      ((active.finish policy position).1.withSeverity other.severityOf,
        (active.entriesOfFinish policy position).map (Entry.diagnostic other.severityOf)) := by
  have same : (active.withSeverity other.severityOf).surroundings other =
      active.surroundings policy := active.surroundings_of_alike alike
  rw [finish, finish, entriesOfFinish, same]
  exact call_withSeverity other.severityOf active position _

end Alike

end ActiveRule

/-! ## Runs without severities -/

structure Transcript where
  active : List ActiveRule
  entries : List Entry

namespace Transcript

def under (severityOf : String → Severity) (transcript : Transcript) : Run :=
  ⟨transcript.active.map (·.withSeverity severityOf),
    transcript.entries.map (Entry.diagnostic severityOf)⟩

def ofCreation (policy : Policy) (position : Position) (registered : RegisteredRule) : Transcript :=
  match policy.activeBinding? registered.id with
  | none => ⟨[], []⟩
  | some binding =>
      match registered.rule.create binding.options with
      | .ok state => ⟨[⟨registered.id, binding.severity, registered.rule, some state⟩], []⟩
      | .error failure => ⟨[], [.failed registered.id failure position]⟩

def start (policy : Policy) (position : Position) (rules : List RegisteredRule) : Transcript :=
  ⟨rules.flatMap fun registered => (ofCreation policy position registered).active,
    rules.flatMap fun registered => (ofCreation policy position registered).entries⟩

def visit (policy : Policy) (transcript : Transcript) (event : Visit) : Transcript :=
  ⟨transcript.active.map fun active => (active.visit policy event).1,
    transcript.entries ++
      transcript.active.flatMap fun active => active.entriesOfVisit policy event⟩

def finish (policy : Policy) (position : Position) (transcript : Transcript) : List Entry :=
  transcript.entries ++
    transcript.active.flatMap fun active => active.entriesOfFinish policy position

section Alike

variable {policy other : Policy}

theorem under_start (alike : policy.SameButSeverities other) (position : Position)
    (rules : List RegisteredRule) :
    (start policy position rules).under other.severityOf = Run.start other position rules := by
  have each (registered : RegisteredRule) :
      (ofCreation policy position registered).under other.severityOf =
        Run.startOne other position registered.id registered.rule := by
    have options := alike.options registered.id
    rw [ofCreation, Run.startOne]
    cases bound : policy.activeBinding? registered.id with
    | none =>
        rw [bound, Option.map_none, eq_comm, Option.map_eq_none_iff] at options
        simp [options, under]
    | some binding =>
        rw [bound, Option.map_some, eq_comm, Option.map_eq_some_iff] at options
        obtain ⟨otherBinding, otherBound, sameOptions⟩ := options
        have severity := Policy.severity_of_activeBinding? otherBound
        cases created : registered.rule.create binding.options <;>
          simp [otherBound, sameOptions, created, under, ActiveRule.withSeverity, severity,
            Entry.diagnostic]
  induction rules with
  | nil => rfl
  | cons registered rest ih =>
      rw [Run.start_cons, ← ih, ← each registered]
      simp [start, under, Run.join]

theorem under_visit (alike : policy.SameButSeverities other) (transcript : Transcript)
    (event : Visit) :
    (transcript.visit policy event).under other.severityOf =
      (transcript.under other.severityOf).visit other event := by
  rw [Run.visit, Run.advance_eq]
  simp [under, visit, Function.comp_def, List.flatMap_map, List.map_flatMap,
    ActiveRule.visit_withSeverity alike]

theorem under_finish (alike : policy.SameButSeverities other) (position : Position)
    (transcript : Transcript) :
    (transcript.finish policy position).map (Entry.diagnostic other.severityOf) =
      ((transcript.under other.severityOf).advance
        (ActiveRule.finish other position)).diagnostics := by
  rw [Run.advance_eq]
  simp [under, finish, List.flatMap_map, List.map_flatMap, ActiveRule.finish_withSeverity alike]

theorem under_walkTree (alike : policy.SameButSeverities other) (root : Node)
    (transcript : Transcript) :
    (walkTree (visit policy) root transcript).under other.severityOf =
      walkTree (Run.visit other) root (transcript.under other.severityOf) := by
  rw [walkTree_eq_foldl, walkTree_eq_foldl]
  induction visits [] 0 root generalizing transcript with
  | nil => rfl
  | cons event rest ih => rw [List.foldl_cons, ih, under_visit alike, List.foldl_cons]

end Alike

end Transcript

namespace Registry

def transcript (registry : Registry) (policy : Policy) (root : Node) : List Entry :=
  let position := root.startPosition
  (walkTree (Transcript.visit policy) root (Transcript.start policy position registry.rules)).finish
    policy position

theorem findings_eq_map_transcript {policy other : Policy} (alike : policy.SameButSeverities other)
    (registry : Registry) (root : Node) :
    registry.findings other root =
      (registry.transcript policy root).map (Entry.diagnostic other.severityOf) := by
  rw [findings, transcript, Transcript.under_finish alike, Transcript.under_walkTree alike,
    Transcript.under_start alike]

theorem evaluate_path (registry : Registry) (policy : Policy) (tree : SyntaxTree) :
    (registry.evaluate policy tree).path = tree.path := rfl

theorem evaluate_eq_map_transcript {policy other : Policy}
    (alike : policy.SameButSeverities other) (registry : Registry) (tree : SyntaxTree) :
    (registry.evaluate other tree).diagnostics =
      ((registry.transcript policy tree.root).mergeSort Entry.notAfter).map fun entry =>
        (entry.diagnostic other.severityOf).stamped tree.path := by
  rw [evaluate, FileReport.ofDiagnostics, findings_eq_map_transcript alike, Entry.map_mergeSort,
    List.map_map]
  rfl

end Registry

theorem Policy.SameButSeverities.refl (policy : Policy) : policy.SameButSeverities policy where
  environments := rfl
  capabilities := rfl
  globals := rfl
  bindings id := by
    cases policy.rules.get? id with
    | none => exact .none
    | some binding => exact .some ⟨rfl, .inl rfl⟩

namespace Registry

/--
Under policies that differ in nothing but the severities of enabled rules, one list of entries
becomes both reports, so they agree one by one on all but the severities.  What the run
itself notes on failing rules is blocking in both.
-/
theorem evaluate_under_other_severities {policy other : Policy}
    (alike : policy.SameButSeverities other) (registry : Registry) (tree : SyntaxTree) :
    let entries := (registry.transcript policy tree.root).mergeSort Entry.notAfter
    let first := registry.evaluate policy tree
    let second := registry.evaluate other tree
    first.diagnostics =
        entries.map (fun entry => (entry.diagnostic policy.severityOf).stamped tree.path) ∧
      second.diagnostics =
        entries.map (fun entry => (entry.diagnostic other.severityOf).stamped tree.path) ∧
      first.path = second.path ∧
      first.diagnostics.length = second.diagnostics.length ∧
      (∀ (index : Nat) one two, first.diagnostics[index]? = some one →
        second.diagnostics[index]? = some two →
          one.ruleId = two.ruleId ∧ one.code = two.code ∧ one.message = two.message ∧
            one.position = two.position ∧ one.fingerprint = two.fingerprint) ∧
      ∀ (index : Nat) id failure position one two,
        entries[index]? = some (.failed id failure position) →
          first.diagnostics[index]? = some one → second.diagnostics[index]? = some two →
            one = two ∧ one.code = "rule_internal_error" ∧ one.severity = .blocking := by
  intro entries first second
  have isFirst : first.diagnostics =
      entries.map fun entry => (entry.diagnostic policy.severityOf).stamped tree.path :=
    registry.evaluate_eq_map_transcript (.refl policy) tree
  have isSecond : second.diagnostics =
      entries.map fun entry => (entry.diagnostic other.severityOf).stamped tree.path :=
    registry.evaluate_eq_map_transcript alike tree
  have samePath : first.path = second.path := by rw [evaluate_path, evaluate_path]
  have sameLength : first.diagnostics.length = second.diagnostics.length := by
    rw [isFirst, isSecond, List.length_map, List.length_map]
  refine ⟨isFirst, isSecond, samePath, sameLength, ?_, ?_⟩
  · intro index one two isOne isTwo
    rw [isFirst, List.getElem?_map, Option.map_eq_some_iff] at isOne
    rw [isSecond, List.getElem?_map, Option.map_eq_some_iff] at isTwo
    obtain ⟨entry, here, rfl⟩ := isOne
    obtain ⟨another, alsoHere, rfl⟩ := isTwo
    obtain rfl : entry = another := Option.some.inj (here.symm.trans alsoHere)
    exact entry.stamped_agree policy.severityOf other.severityOf tree.path
  · intro index id failure position one two here isOne isTwo
    rw [isFirst, List.getElem?_map, here, Option.map_some] at isOne
    rw [isSecond, List.getElem?_map, here, Option.map_some] at isTwo
    cases isOne
    cases isTwo
    exact ⟨rfl, rfl, rfl⟩

/-- Two rules exchange their severities, and one of them fails. -/
theorem evaluate_under_exchanged_severities :
    let registry := (empty.add none Rules.NoDebugger.rule).add none Rules.QuoteStyle.rule
    let policy : Policy := ⟨∅, .default, ∅,
      .ofList [("no-debugger", ⟨.advisory, []⟩), ("quote-style", ⟨.blocking, []⟩)]⟩
    let other : Policy := ⟨∅, .default, ∅,
      .ofList [("no-debugger", ⟨.blocking, []⟩), ("quote-style", ⟨.advisory, []⟩)]⟩
    let tree : SyntaxTree := ⟨⟨"a.js"⟩, Build.node .program .empty
      [Build.statement .debuggerStatement [] true, Build.node .stringLiteral .empty []]⟩
    policy.SameButSeverities other ∧
      (registry.findings policy tree.root).map (fun one => (one.code, one.severity)) =
        [("debugger_statement", .advisory), ("rule_internal_error", .blocking)] ∧
      (registry.findings other tree.root).map (fun two => (two.code, two.severity)) =
        [("debugger_statement", .blocking), ("rule_internal_error", .blocking)] ∧
      (registry.evaluate policy tree).diagnostics.length =
        (registry.evaluate other tree).diagnostics.length := by
  intro registry policy other tree
  have alike : policy.SameButSeverities other := by
    refine ⟨rfl, rfl, rfl, fun id => ?_⟩
    by_cases isFirst : "no-debugger" = id
    · subst isFirst
      exact .some ⟨rfl, .inr ⟨rfl, rfl⟩⟩
    · by_cases isSecond : "quote-style" = id
      · subst isSecond
        exact .some ⟨rfl, .inr ⟨rfl, rfl⟩⟩
      · simp [policy, other, Dictionary.get?_ofList, isFirst, isSecond]
  obtain ⟨-, -, -, sameLength, -⟩ := evaluate_under_other_severities alike registry tree
  refine ⟨alike, ?_, ?_, sameLength⟩
  · rw [findings, walkTree_eq_foldl]
    decide
  · rw [findings, walkTree_eq_foldl]
    decide

end Registry

end ScriptLint
