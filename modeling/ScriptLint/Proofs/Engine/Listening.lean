import ScriptLint.Proofs.Engine.Contribution
import ScriptLint.Proofs.Report.Order

/-!
# Rules that listen

A listening rule takes notes on the nodes that it is shown, says nothing, and draws its
conclusions when the walk is over.  No step of it fails.  What such a rule contributes
to an evaluation is therefore what it concludes from its notes on all visits that it
wants.
-/

namespace ScriptLint

open Evaluation

variable {σ : Type}

/-- A rule whose state holds notes, which grow with each visit and are used at the end. -/
structure Rule.Listens (rule : Rule) (held : σ → rule.State)
    (note : Surroundings → σ → Visit → σ) (conclude : σ → Surroundings → List Finding) : Prop where
  respond : ∀ surroundings event notes, rule.respond surroundings event (held notes) =
    .quiet (held (note surroundings notes event))
  finish : ∀ notes surroundings, rule.finish (held notes) surroundings =
    .report (held notes) (conclude notes surroundings)

namespace Rule.Listens

variable {rule : Rule} {held : σ → rule.State} {note : Surroundings → σ → Visit → σ}
  {conclude : σ → Surroundings → List Finding} {options : List Value} {start : σ}

theorem completes_visits (listens : rule.Listens held note conclude)
    (created : rule.create options = .ok (held start)) (surroundings : Surroundings)
    (events : List Visit) :
    rule.Completes options surroundings (.create :: events.map .visit) []
      (held (events.foldl (note surroundings) start)) := by
  -- Calls are recorded at the end of those before them, so the list grows from its end.
  induction events using List.reverseRecOn with
  | nil => exact .create created
  | append_singleton events event ih =>
      have answered : rule.answer? surroundings (.visit event)
          (held (events.foldl (note surroundings) start)) = some (.quiet _) :=
        congrArg some (listens.respond surroundings event _)
      have extended := ih.call answered rfl
      simpa [Outcome.quiet] using extended

def notesOn (rule : Rule) (note : Surroundings → σ → Visit → σ) (start : σ)
    (surroundings : Surroundings) (root : Node) : σ :=
  ((visits [] 0 root).filter rule.wants).foldl (note surroundings) start

theorem completes (listens : rule.Listens held note conclude)
    (created : rule.create options = .ok (held start)) (surroundings : Surroundings)
    (root : Node) :
    rule.Completes options surroundings (rule.hooks root)
      (conclude (notesOn rule note start surroundings root) surroundings)
      (held (notesOn rule note start surroundings root)) := by
  have visited := listens.completes_visits created surroundings
    ((visits [] 0 root).filter rule.wants)
  have answered : rule.answer? surroundings .finish
      (held (notesOn rule note start surroundings root)) = some (.report _ _) :=
    congrArg some (listens.finish _ surroundings)
  have ended := visited.call answered rfl
  simpa [hooks, Outcome.report] using ended

end Rule.Listens

/-- A listening rule reports its conclusions, in the order in which it draws them. -/
theorem Registry.filter_ofRule_evaluate_of_listens {registry : Registry}
    (reachable : registry.Reachable) {policy : Policy} {registered : RegisteredRule}
    (member : registered ∈ registry.rules) {binding : RuleBinding}
    (enabled : policy.activeBinding? registered.id = some binding)
    {held : σ → registered.rule.State} {note : Surroundings → σ → Visit → σ}
    {conclude : σ → Surroundings → List Finding}
    (listens : registered.rule.Listens held note conclude) {start : σ}
    (created : registered.rule.create binding.options = .ok (held start)) (tree : SyntaxTree) :
    let surroundings : Surroundings := ⟨registered.id, policy.globals, policy.capabilities⟩
    let notes := Rule.Listens.notesOn registered.rule note start surroundings tree.root
    (registry.evaluate policy tree).diagnostics.filter (Diagnostic.ofRule registered.id) =
      (FileReport.ofDiagnostics tree.path ((conclude notes surroundings).map
        (diagnosticOf registered.id binding.severity))).diagnostics := by
  intro surroundings notes
  have completes := listens.completes created surroundings tree.root
  rw [evaluate, Diagnostic.filter_ofRule_ofDiagnostics,
    filter_ofRule_findings_of_completes reachable member enabled completes]

end ScriptLint
