import Mathlib.Data.List.Induction
import Mathlib.Data.List.TakeWhile
import ScriptLint.Proofs.Engine.Failure

/-!
# Contributions of kinds of rules

Most rules are of one of two kinds.  A regular rule has no failing step; it can fail
only when it is created.  A judging rule keeps the state that it was created in and looks
at the nodes that it is shown one by one; it reports what it finds on them up to
the first node that it cannot judge.
-/

namespace ScriptLint

open Evaluation

/-! ## Contributions -/

namespace Registry

variable {registry : Registry} {policy : Policy}

theorem exists_enabled_of_mem_findings {root : Node} {diagnostic : Diagnostic}
    (member : diagnostic ∈ registry.findings policy root) :
    ∃ registered ∈ registry.rules, registered.id = diagnostic.ruleId ∧
      ∃ binding, policy.activeBinding? registered.id = some binding := by
  by_contra absent
  have inactive : ∀ registered ∈ registry.rules.filter fun registered =>
      registered.id = diagnostic.ruleId, policy.activeBinding? registered.id = none := by
    intro registered isOwn
    obtain ⟨inRules, own⟩ := List.mem_filter.mp isOwn
    by_contra active
    obtain ⟨binding, enabled⟩ := Option.ne_none_iff_exists'.mp active
    exact absent ⟨registered, inRules, of_decide_eq_true own, binding, enabled⟩
  have own : diagnostic ∈
      (registry.findings policy root).filter (Diagnostic.ofRule diagnostic.ruleId) :=
    List.mem_filter.mpr ⟨member, decide_eq_true rfl⟩
  rw [filter_ofRule_findings, Traced.complete_of_inactive root inactive] at own
  cases own

theorem filter_ofRule_findings_of_inactive {id : String}
    (inactive : policy.activeBinding? id = none) (root : Node) :
    (registry.findings policy root).filter (Diagnostic.ofRule id) = [] := by
  rw [List.filter_eq_nil_iff]
  intro diagnostic member isOwn
  obtain ⟨registered, -, own, binding, enabled⟩ := exists_enabled_of_mem_findings member
  rw [own, of_decide_eq_true isOwn, inactive] at enabled
  cases enabled

section Enabled

variable {registered : RegisteredRule} {binding : RuleBinding}

theorem filter_ofRule_findings_eq_foldl (reachable : registry.Reachable)
    (member : registered ∈ registry.rules)
    (enabled : policy.activeBinding? registered.id = some binding) (root : Node) :
    (registry.findings policy root).filter (Diagnostic.ofRule registered.id) =
      ((registered.rule.hooks root).foldl (Traced.offer policy root registered)
        ⟨⟨[], []⟩, []⟩).run.diagnostics := by
  rw [filter_ofRule_findings, filter_id_of_mem reachable.indexed.distinct member,
    Traced.complete_singleton root enabled]

theorem filter_ofRule_findings_of_completes (reachable : registry.Reachable)
    (member : registered ∈ registry.rules)
    (enabled : policy.activeBinding? registered.id = some binding) {root : Node}
    {findings : List Finding} {state : registered.rule.State}
    (completes : registered.rule.Completes binding.options
      ⟨registered.id, policy.globals, policy.capabilities⟩ (registered.rule.hooks root)
      findings state) :
    (registry.findings policy root).filter (Diagnostic.ofRule registered.id) =
      findings.map (diagnosticOf registered.id binding.severity) := by
  rw [filter_ofRule_findings_eq_foldl reachable member enabled,
    Traced.foldl_offer_of_completes root enabled completes
      fun hook inHooks => Rule.takes_of_mem_hooks inHooks]
  rfl

theorem filter_ofRule_findings_of_failsAt (reachable : registry.Reachable)
    (member : registered ∈ registry.rules)
    (enabled : policy.activeBinding? registered.id = some binding) {root : Node}
    {before after : List Hook} {call : Hook} {findings : List Finding} {failure : Failure}
    (split : registered.rule.hooks root = before ++ call :: after)
    (fails : registered.rule.FailsAt binding.options
      ⟨registered.id, policy.globals, policy.capabilities⟩ before findings call failure) :
    (registry.findings policy root).filter (Diagnostic.ofRule registered.id) =
      findings.map (diagnosticOf registered.id binding.severity) ++
        [failureDiagnostic registered.id failure (call.position root)] := by
  have regroup : registered.rule.hooks root = (before ++ [call]) ++ after := by simp [split]
  have taken : ∀ other ∈ before ++ [call], registered.rule.takes other = true := by
    intro other inCalls
    have inHooks : other ∈ registered.rule.hooks root :=
      regroup ▸ List.mem_append_left after inCalls
    exact Rule.takes_of_mem_hooks inHooks
  obtain ⟨ended, dead, reached, reports, -⟩ :=
    Traced.foldl_offer_of_failsAt root enabled fails taken
  rw [filter_ofRule_findings_eq_foldl reachable member enabled, regroup, List.foldl_append,
    reached, dead.foldl_offer (Rule.create_not_mem_of_hooks_eq split), reports]

end Enabled

end Registry

/-! ## Regular rules -/

def Diagnostic.isInternal (diagnostic : Diagnostic) : Bool :=
  diagnostic.code = "rule_internal_error"

structure Outcome.IsRegular {σ : Type} (outcome : Outcome σ) : Prop where
  succeeds : ∃ next, outcome.result = .ok next
  codes : ∀ finding ∈ outcome.findings, finding.code ≠ "rule_internal_error"

namespace Outcome.IsRegular

variable {σ : Type}

theorem quiet (state : σ) : (Outcome.quiet state).IsRegular :=
  ⟨⟨state, rfl⟩, by simp [Outcome.quiet]⟩

theorem report (state : σ) {findings : List Finding}
    (codes : ∀ finding ∈ findings, finding.code ≠ "rule_internal_error") :
    (Outcome.report state findings).IsRegular :=
  ⟨⟨state, rfl⟩, codes⟩

theorem report_map {α : Type} (state : σ) (flagged : List α) {find : α → Finding}
    (codes : ∀ item, (find item).code ≠ "rule_internal_error") :
    (Outcome.report state (flagged.map find)).IsRegular := by
  refine report state fun finding member => ?_
  obtain ⟨item, -, rfl⟩ := List.mem_map.mp member
  exact codes item

end Outcome.IsRegular

namespace Rule

structure IsRegular (rule : Rule) : Prop where
  enter : ∀ state context node, (rule.enter state context node).IsRegular
  exit : ∀ state context node, (rule.exit state context node).IsRegular
  finish : ∀ state surroundings, (rule.finish state surroundings).IsRegular

namespace IsRegular

variable {rule : Rule} {options : List Value} {surroundings : Surroundings}

theorem answer (regular : rule.IsRegular) {hook : Hook} {state : rule.State}
    {outcome : Outcome rule.State}
    (answered : rule.answer? surroundings hook state = some outcome) : outcome.IsRegular := by
  cases hook with
  | create => cases answered
  | visit event =>
      cases answered
      rw [respond]
      cases event.phase with
      | enter => exact regular.enter _ _ _
      | exit => exact regular.exit _ _ _
  | finish =>
      cases answered
      exact regular.finish _ _

theorem codes (regular : rule.IsRegular) {calls : List Hook} {findings : List Finding}
    {state : rule.State} (completes : rule.Completes options surroundings calls findings state) :
    ∀ finding ∈ findings, finding.code ≠ "rule_internal_error" := by
  induction completes with
  | create created => simp
  | call before answered succeeded ih =>
      intro finding member
      rcases List.mem_append.mp member with earlier | last
      · exact ih finding earlier
      · exact (regular.answer answered).codes finding last

theorem completes (regular : rule.IsRegular) {start : rule.State}
    (created : rule.create options = .ok start) (surroundings : Surroundings) (root : Node) :
    ∃ findings state, rule.Completes options surroundings (rule.hooks root) findings state := by
  rcases rule.completes_or_failsAt options surroundings root with
    completes | ⟨before, call, after, findings, failure, -, fails⟩
  · exact completes
  · cases fails with
    | create refused => simp [created] at refused
    | call before answered failed =>
        obtain ⟨next, succeeds⟩ := (regular.answer answered).succeeds
        simp [succeeds] at failed

end IsRegular

end Rule

theorem Registry.not_isInternal_of_isRegular {registry : Registry}
    (reachable : registry.Reachable) {policy : Policy} {registered : RegisteredRule}
    (member : registered ∈ registry.rules) {binding : RuleBinding}
    (enabled : policy.activeBinding? registered.id = some binding)
    (regular : registered.rule.IsRegular) {start : registered.rule.State}
    (created : registered.rule.create binding.options = .ok start) {root : Node}
    {diagnostic : Diagnostic} (reported : diagnostic ∈ registry.findings policy root)
    (own : registered.id = diagnostic.ruleId) : diagnostic.isInternal = false := by
  obtain ⟨findings, state, completes⟩ := regular.completes created
    ⟨registered.id, policy.globals, policy.capabilities⟩ root
  have contribution := filter_ofRule_findings_of_completes reachable member enabled completes
  have inContribution : diagnostic ∈
      (registry.findings policy root).filter (Diagnostic.ofRule registered.id) :=
    List.mem_filter.mpr ⟨reported, decide_eq_true own.symm⟩
  rw [contribution, List.mem_map] at inContribution
  obtain ⟨finding, found, rfl⟩ := inContribution
  exact decide_eq_false (regular.codes completes finding found)

/-! ## Judging rules -/

abbrev Judge (σ : Type) : Type := σ → Context → Node → Except Failure (List Finding)

/-- A rule that stays in the state it was created in, and judges nodes on the way in. -/
structure Rule.JudgesBy (rule : Rule) (judge : Judge rule.State) : Prop where
  enter : ∀ state context node, rule.enter state context node =
    .ofExcept ((judge state context node).map fun findings => (state, findings))
  exit : ∀ state context node, rule.exit state context node = .quiet state
  finish : ∀ state surroundings, rule.finish state surroundings = .quiet state

namespace Judge

variable {σ : Type}

def visit (judge : Judge σ) (state : σ) (surroundings : Surroundings) (event : Visit) :
    Except Failure (List Finding) :=
  match event.phase with
  | .enter => judge state ⟨surroundings, event.target.index, event.ancestors⟩ event.target.node
  | .exit => .ok []

def found (judge : Judge σ) (state : σ) (surroundings : Surroundings) (event : Visit) :
    List Finding :=
  (judge.visit state surroundings event).toOption.getD []

def failure? (judge : Judge σ) (state : σ) (surroundings : Surroundings) (event : Visit) :
    Option Failure :=
  match judge.visit state surroundings event with
  | .ok _ => none
  | .error failure => some failure

def fails (judge : Judge σ) (state : σ) (surroundings : Surroundings) (event : Visit) : Bool :=
  (judge.failure? state surroundings event).isSome

variable {judge : Judge σ} {state : σ} {surroundings : Surroundings} {event : Visit}

theorem visit_of_not_fails (judged : judge.fails state surroundings event = false) :
    judge.visit state surroundings event = .ok (judge.found state surroundings event) := by
  rw [fails, failure?] at judged
  rw [found]
  cases outcome : judge.visit state surroundings event with
  | ok findings => rfl
  | error failure => simp [outcome] at judged

theorem visit_of_fails (failed : judge.fails state surroundings event = true) :
    ∃ failure, judge.visit state surroundings event = .error failure ∧
      judge.failure? state surroundings event = some failure := by
  rw [fails, failure?] at failed
  rw [failure?]
  cases outcome : judge.visit state surroundings event with
  | ok findings => simp [outcome] at failed
  | error failure => exact ⟨failure, rfl, rfl⟩

end Judge

namespace Rule.JudgesBy

variable {rule : Rule} {judge : Judge rule.State} {options : List Value}
  {surroundings : Surroundings} {state : rule.State}

theorem respond (judges : rule.JudgesBy judge) (surroundings : Surroundings) (event : Visit)
    (state : rule.State) : rule.respond surroundings event state =
      .ofExcept ((judge.visit state surroundings event).map fun findings => (state, findings)) := by
  rw [Rule.respond, Judge.visit]
  cases event.phase with
  | enter => exact judges.enter _ _ _
  | exit => exact judges.exit _ _ _

theorem completes_visits (judges : rule.JudgesBy judge) (created : rule.create options = .ok state)
    (events : List Visit)
    (judged : ∀ event ∈ events, judge.fails state surroundings event = false) :
    rule.Completes options surroundings (.create :: events.map .visit)
      (events.flatMap (judge.found state surroundings)) state := by
  induction events using List.reverseRecOn with
  | nil => exact .create created
  | append_singleton events event ih =>
      have isJudged := Judge.visit_of_not_fails (judged event (by simp))
      have before := ih fun other earlier => judged other (List.mem_append_left _ earlier)
      have last := judges.respond surroundings event state
      simp only [isJudged, Except.map, Outcome.ofExcept] at last
      have answered : rule.answer? surroundings (.visit event) state =
          some (.report state (judge.found state surroundings event)) := congrArg some last
      have extended := before.call answered rfl
      simpa [Outcome.report] using extended

theorem completes (judges : rule.JudgesBy judge) (created : rule.create options = .ok state)
    (root : Node)
    (judged : ∀ event ∈ (visits [] 0 root).filter rule.wants,
      judge.fails state surroundings event = false) :
    rule.Completes options surroundings (rule.hooks root)
      (((visits [] 0 root).filter rule.wants).flatMap (judge.found state surroundings)) state := by
  have visited := judges.completes_visits created _ judged
  have answered : rule.answer? surroundings .finish state = some (.quiet state) :=
    congrArg some (judges.finish state surroundings)
  have ended := visited.call answered rfl
  simpa [hooks, Outcome.quiet] using ended

theorem failsAt (judges : rule.JudgesBy judge) (created : rule.create options = .ok state)
    {events : List Visit} {event : Visit} {failure : Failure}
    (judged : ∀ other ∈ events, judge.fails state surroundings other = false)
    (failed : judge.visit state surroundings event = .error failure) :
    rule.FailsAt options surroundings (.create :: events.map .visit)
      (events.flatMap (judge.found state surroundings)) (.visit event) failure := by
  have before := judges.completes_visits created events judged
  have last := judges.respond surroundings event state
  simp only [failed, Except.map, Outcome.ofExcept] at last
  exact .call before (congrArg some last) rfl

end Rule.JudgesBy

/-- A judging rule reports what it finds up to the first visit that it cannot judge. -/
theorem Registry.filter_ofRule_findings_of_judgesBy {registry : Registry}
    (reachable : registry.Reachable) {policy : Policy} {registered : RegisteredRule}
    (member : registered ∈ registry.rules) {binding : RuleBinding}
    (enabled : policy.activeBinding? registered.id = some binding)
    {judge : Judge registered.rule.State} (judges : registered.rule.JudgesBy judge)
    {state : registered.rule.State} (created : registered.rule.create binding.options = .ok state)
    (root : Node) :
    let surroundings : Surroundings := ⟨registered.id, policy.globals, policy.capabilities⟩
    let shown := (visits [] 0 root).filter registered.rule.wants
    (registry.findings policy root).filter (Diagnostic.ofRule registered.id) =
      ((shown.takeWhile fun event => !judge.fails state surroundings event).flatMap
          (judge.found state surroundings)).map (diagnosticOf registered.id binding.severity) ++
        ((shown.find? (judge.fails state surroundings)).bind fun event =>
          (judge.failure? state surroundings event).map fun failure =>
            failureDiagnostic registered.id failure event.target.node.startPosition).toList := by
  intro surroundings shown
  cases first : shown.find? (judge.fails state surroundings) with
  | none =>
      have judged : ∀ event ∈ shown, judge.fails state surroundings event = false := by
        simpa using first
      have all : shown.takeWhile (fun event => !judge.fails state surroundings event) = shown :=
        List.takeWhile_eq_self_iff.mpr fun event inWalk => by simp [judged event inWalk]
      rw [all, filter_ofRule_findings_of_completes reachable member enabled
        (judges.completes created root judged)]
      simp [shown, surroundings]
  | some event =>
      obtain ⟨failing, before, after, split, earlier⟩ := List.find?_eq_some_iff_append.mp first
      obtain ⟨failure, failed, isFailure⟩ := Judge.visit_of_fails failing
      have judged : ∀ other ∈ before, judge.fails state surroundings other = false :=
        fun other isBefore => by simpa using earlier other isBefore
      have taken : shown.takeWhile (fun event => !judge.fails state surroundings event) =
          before := by
        rw [split, List.takeWhile_append_of_pos earlier,
          List.takeWhile_cons_of_neg (by simp [failing]), List.append_nil]
      have hooksSplit : registered.rule.hooks root =
          (.create :: before.map .visit) ++ .visit event :: (after.map .visit ++ [.finish]) := by
        have listed : registered.rule.hooks root =
            .create :: (shown.map .visit ++ [.finish]) := rfl
        rw [listed, split]
        simp
      rw [taken, filter_ofRule_findings_of_failsAt reachable member enabled hooksSplit
        (judges.failsAt created judged failed)]
      simp [isFailure, Hook.position, surroundings]

/-! ## Nodes in pre-order -/

def Visit.entered? (event : Visit) : Option Node :=
  match event.phase with
  | .enter => some event.target.node
  | .exit => none

def Node.nodes (root : Node) : List Node := (root.preorder 0).map (·.2)

mutual

theorem filterMap_entered_visits (ancestors : List Located) (index depth : Nat) (node : Node) :
    (visits ancestors index node).filterMap Visit.entered? = (node.preorder depth).map (·.2) := by
  obtain ⟨kind, location, span, attributes, children⟩ := node
  simp [visits, Node.preorder, Visit.entered?,
    filterMap_entered_visitsAll _ 0 (depth + 1) children]

theorem filterMap_entered_visitsAll (ancestors : List Located) (index depth : Nat)
    (children : List Node) :
    (visitsAll ancestors index children).filterMap Visit.entered? =
      (Node.preorderAll depth children).map (·.2) := by
  cases children with
  | nil => rfl
  | cons child rest =>
      rw [visitsAll, Node.preorderAll, List.filterMap_append, List.map_append,
        filterMap_entered_visits ancestors index depth child,
        filterMap_entered_visitsAll ancestors (index + 1) depth rest]

end

theorem Node.nodes_eq_filterMap_visits (root : Node) :
    root.nodes = (visits [] 0 root).filterMap Visit.entered? :=
  (filterMap_entered_visits [] 0 0 root).symm

end ScriptLint
