import ScriptLint.Engine.Evaluation
import ScriptLint.Proofs.Engine.Traversal

/-!
# Calls of rules

Evaluation is a sequence of calls: each rule that is switched on is created, shown
the nodes it is interested in while it is live, and finished.  A rule is live from
its creation to its first failure.  `Traced` runs carry the calls made so far;
the main statement is that the walk makes the calls, in the order, that recursion
on the tree makes.
-/

namespace ScriptLint

inductive Hook where
  | create
  | visit (event : Visit)
  | finish

structure HookCall where
  ruleId : String
  hook : Hook

namespace Rule

def wants (rule : Rule) (event : Visit) : Bool := event.target.node.kind ∈ rule.interests

def respond (rule : Rule) (surroundings : Surroundings) (event : Visit) (state : rule.State) :
    Outcome rule.State :=
  let context : Context := ⟨surroundings, event.target.index, event.ancestors⟩
  match event.phase with
  | .enter => rule.enter state context event.target.node
  | .exit => rule.exit state context event.target.node

end Rule

def Evaluation.reported {σ : Type} (id : String) (severity : Severity) (position : Position)
    (outcome : Outcome σ) : List Diagnostic :=
  match outcome.result with
  | .ok _ => outcome.findings.map (diagnosticOf id severity)
  | .error failure => [failureDiagnostic id failure position]

open Evaluation

namespace ActiveRule

def isLive (active : ActiveRule) : Bool := active.state.isSome

def wants (active : ActiveRule) (event : Visit) : Bool :=
  active.isLive && active.rule.wants event

theorem call_of_state_none {active : ActiveRule} (dead : active.state = none)
    (position : Position) (hook : active.rule.State → Outcome active.rule.State) :
    active.call position hook = (active, []) := by
  simp only [call, dead]

theorem visit_eq (policy : Policy) (active : ActiveRule) (event : Visit) :
    active.visit policy event =
      if active.rule.wants event then
        active.call event.target.node.startPosition
          (active.rule.respond (active.surroundings policy) event)
      else (active, []) := by
  obtain ⟨phase, target, ancestors⟩ := event
  simp only [visit, Rule.wants, decide_eq_true_eq]
  cases phase <;> rfl

theorem visit_of_not_wants {policy : Policy} {active : ActiveRule} {event : Visit}
    (unwanted : active.wants event = false) : active.visit policy event = (active, []) := by
  rw [visit_eq]
  split
  · rename_i interested
    have dead : active.state = none := by simpa [wants, isLive, interested] using unwanted
    exact call_of_state_none dead _ _
  · rfl

theorem call_of_live {active : ActiveRule} {state : active.rule.State}
    (live : active.state = some state) (position : Position)
    (hook : active.rule.State → Outcome active.rule.State) :
    active.call position hook =
      ({ active with state := (hook state).result.toOption },
        reported active.id active.severity position (hook state)) := by
  simp only [call, live, reported]
  cases (hook state).result <;> rfl

theorem visit_of_live {policy : Policy} {active : ActiveRule} {event : Visit}
    {state : active.rule.State} (live : active.state = some state)
    (interested : active.rule.wants event = true) :
    active.visit policy event =
      ({ active with
          state := (active.rule.respond (active.surroundings policy) event
            state).result.toOption },
        reported active.id active.severity event.target.node.startPosition
          (active.rule.respond (active.surroundings policy) event state)) := by
  rw [visit_eq, if_pos interested, call_of_live live]

theorem visit_rule (policy : Policy) (active : ActiveRule) (event : Visit) :
    (active.visit policy event).1.rule = active.rule := by
  cases live : active.state with
  | none =>
      rw [visit_of_not_wants]
      simp [wants, isLive, live]
  | some state =>
      rw [visit_eq]
      split
      · rw [call_of_live live]
      · rfl

end ActiveRule

namespace Run

theorem advance_eq (run : Run) (step : ActiveRule → ActiveRule × List Diagnostic) :
    run.advance step = ⟨run.active.map fun active => (step active).1,
      run.diagnostics ++ run.active.flatMap fun active => (step active).2⟩ := by
  simp [advance, List.flatMap_map, Function.comp_def]

theorem advance_of_idle {run : Run} {step : ActiveRule → ActiveRule × List Diagnostic}
    (idle : ∀ active ∈ run.active, step active = (active, [])) : run.advance step = run := by
  have sameActive : (run.active.map fun active => (step active).1) = run.active := by
    conv => rhs; rw [← List.map_id run.active]
    exact List.map_congr_left fun active member => by simp [idle active member]
  have noReports : (run.active.flatMap fun active => (step active).2) = [] :=
    List.flatMap_eq_nil_iff.mpr fun active member => by simp [idle active member]
  rw [advance_eq, sameActive, noReports, List.append_nil]

end Run

/-! ## Traced runs -/

def Run.calls (run : Run) (event : Visit) : List HookCall :=
  (run.active.filter (·.wants event)).map fun active => ⟨active.id, .visit event⟩

/-- A run with the calls made in it so far. -/
structure Traced where
  run : Run
  calls : List HookCall

namespace Traced

def visit (policy : Policy) (traced : Traced) (event : Visit) : Traced :=
  ⟨traced.run.visit policy event, traced.calls ++ traced.run.calls event⟩

def finish (policy : Policy) (position : Position) (traced : Traced) : Traced :=
  ⟨traced.run.advance (ActiveRule.finish policy position),
    traced.calls ++ (traced.run.active.filter (·.isLive)).map fun active => ⟨active.id, .finish⟩⟩

def start (policy : Policy) (position : Position) (rules : List RegisteredRule) : Traced :=
  let enabled := rules.filter fun registered => (policy.activeBinding? registered.id).isSome
  ⟨Run.start policy position rules, enabled.map fun registered => ⟨registered.id, .create⟩⟩

def complete (policy : Policy) (root : Node) (rules : List RegisteredRule) : Traced :=
  (walkTree (visit policy) root (start policy root.startPosition rules)).finish policy
    root.startPosition

end Traced

theorem foldl_traced_run (policy : Policy) (events : List Visit) (traced : Traced) :
    (events.foldl (Traced.visit policy) traced).run =
      events.foldl (Run.visit policy) traced.run := by
  induction events generalizing traced with
  | nil => rfl
  | cons event rest ih => exact ih (traced.visit policy event)

theorem walkTree_traced_run (policy : Policy) (root : Node) (traced : Traced) :
    (walkTree (Traced.visit policy) root traced).run =
      walkTree (Run.visit policy) root traced.run := by
  rw [walkTree_eq_foldl, walkTree_eq_foldl, foldl_traced_run]

theorem Registry.findings_eq (registry : Registry) (policy : Policy) (root : Node) :
    registry.findings policy root =
      (Traced.complete policy root registry.rules).run.diagnostics := by
  simp only [findings, Traced.complete, Traced.finish, walkTree_traced_run, Traced.start]

namespace Traced

/-! ## Runs in which nothing is called -/

theorem visit_of_unwanted {policy : Policy} {traced : Traced} {event : Visit}
    (unwanted : ∀ active ∈ traced.run.active, active.wants event = false) :
    traced.visit policy event = traced := by
  have noCalls : traced.run.calls event = [] := by
    rw [Run.calls, List.map_eq_nil_iff, List.filter_eq_nil_iff]
    exact fun active member => by simp [unwanted active member]
  have sameRun : traced.run.visit policy event = traced.run :=
    Run.advance_of_idle fun active member => ActiveRule.visit_of_not_wants (unwanted active member)
  rw [visit, noCalls, sameRun, List.append_nil]

def IsOver (traced : Traced) : Prop := ∀ active ∈ traced.run.active, active.state = none

theorem IsOver.visit {policy : Policy} {traced : Traced} (dead : traced.IsOver)
    (event : Visit) : traced.visit policy event = traced :=
  visit_of_unwanted fun active member => by
    simp [ActiveRule.wants, ActiveRule.isLive, dead active member]

theorem IsOver.finish {policy : Policy} {position : Position} {traced : Traced}
    (dead : traced.IsOver) : traced.finish policy position = traced := by
  have noneLive : traced.run.active.filter (·.isLive) = [] :=
    List.filter_eq_nil_iff.mpr fun active member => by
      simp [ActiveRule.isLive, dead active member]
  have sameRun : traced.run.advance (ActiveRule.finish policy position) = traced.run :=
    Run.advance_of_idle fun active member =>
      ActiveRule.call_of_state_none (dead active member) _ _
  rw [Traced.finish, noneLive, sameRun, List.map_nil, List.append_nil]

theorem IsOver.walkTree {policy : Policy} {traced : Traced} (dead : traced.IsOver)
    (root : Node) : walkTree (Traced.visit policy) root traced = traced := by
  rw [walkTree_eq_foldl]
  induction visits [] 0 root with
  | nil => rfl
  | cons event rest ih => rw [List.foldl_cons, dead.visit, ih]

end Traced

/-! ## The calls of a walk -/

end ScriptLint
