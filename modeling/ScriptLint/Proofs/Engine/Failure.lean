import ScriptLint.Pattern.Parser
import ScriptLint.Proofs.Engine.Isolation

/-!
# Failing rules

What a rule contributes to an evaluation depends on its own calls only: it is
created, called for the nodes it is interested in, and finished.  If all calls
succeed, the contribution is what they report; otherwise it is what the calls before
the first failing one report and one blocking diagnostic in place of the rest, and
no call is made after the failing one.
-/

namespace ScriptLint

open Evaluation

/-! ## The calls of a rule -/

def Hook.position (root : Node) : Hook → Position
  | .create => root.startPosition
  | .visit event => event.target.node.startPosition
  | .finish => root.startPosition

namespace Rule

/-- The calls that an evaluation makes to a rule that does not fail. -/
def hooks (rule : Rule) (root : Node) : List Hook :=
  .create :: (((visits [] 0 root).filter rule.wants).map .visit ++ [.finish])

def answer? (rule : Rule) (surroundings : Surroundings) (hook : Hook) (state : rule.State) :
    Option (Outcome rule.State) :=
  match hook with
  | .create => none
  | .visit event => some (rule.respond surroundings event state)
  | .finish => some (rule.finish state surroundings)

/-- The calls made to a rule so far all succeed, report the findings and lead to the state. -/
inductive Completes (rule : Rule) (options : List Value) (surroundings : Surroundings) :
    List Hook → List Finding → rule.State → Prop
  | create {state : rule.State} (created : rule.create options = .ok state) :
      Completes rule options surroundings [.create] [] state
  | call {calls : List Hook} {findings : List Finding} {state next : rule.State} {hook : Hook}
      {outcome : Outcome rule.State}
      (before : Completes rule options surroundings calls findings state)
      (answered : rule.answer? surroundings hook state = some outcome)
      (succeeded : outcome.result = .ok next) :
      Completes rule options surroundings (calls ++ [hook]) (findings ++ outcome.findings) next

/-- A call fails after calls that succeed and report the findings. -/
inductive FailsAt (rule : Rule) (options : List Value) (surroundings : Surroundings) :
    List Hook → List Finding → Hook → Failure → Prop
  | create {failure : Failure} (refused : rule.create options = .error failure) :
      FailsAt rule options surroundings [] [] .create failure
  | call {calls : List Hook} {findings : List Finding} {state : rule.State} {hook : Hook}
      {outcome : Outcome rule.State} {failure : Failure}
      (before : Completes rule options surroundings calls findings state)
      (answered : rule.answer? surroundings hook state = some outcome)
      (failed : outcome.result = .error failure) :
      FailsAt rule options surroundings calls findings hook failure

variable {rule : Rule} {options : List Value} {surroundings : Surroundings}

theorem Completes.or_failsAt {calls : List Hook} {findings : List Finding} {state : rule.State}
    (completes : rule.Completes options surroundings calls findings state) (rest : List Hook)
    (created : .create ∉ rest) :
    (∃ findings state, rule.Completes options surroundings (calls ++ rest) findings state) ∨
      ∃ before call after findings failure, calls ++ rest = before ++ call :: after ∧
        rule.FailsAt options surroundings before findings call failure := by
  induction rest generalizing calls findings state with
  | nil => exact .inl ⟨findings, state, by simpa using completes⟩
  | cons hook rest ih =>
      rw [List.mem_cons, not_or] at created
      obtain ⟨notCreate, restCreated⟩ := created
      obtain ⟨outcome, answered⟩ :
          ∃ outcome, rule.answer? surroundings hook state = some outcome := by
        cases hook with
        | create => exact absurd rfl notCreate
        | visit event => exact ⟨_, rfl⟩
        | finish => exact ⟨_, rfl⟩
      cases result : outcome.result with
      | error failure =>
          exact .inr ⟨calls, hook, rest, findings, failure, rfl, .call completes answered result⟩
      | ok next =>
          have extended := ih (.call completes answered result) restCreated
          simpa using extended

theorem create_not_mem_tail_hooks (rule : Rule) (root : Node) :
    .create ∉ (rule.hooks root).tail := by
  simp [hooks]

theorem create_not_mem_of_hooks_eq {root : Node} {before after : List Hook} {call : Hook}
    (split : rule.hooks root = before ++ call :: after) : .create ∉ after := by
  have notLater := rule.create_not_mem_tail_hooks root
  rw [split] at notLater
  cases before with
  | nil => exact notLater
  | cons first others =>
      intro member
      exact notLater (List.mem_append_right others (List.mem_cons_of_mem call member))

theorem completes_or_failsAt (rule : Rule) (options : List Value) (surroundings : Surroundings)
    (root : Node) :
    (∃ findings state,
        rule.Completes options surroundings (rule.hooks root) findings state) ∨
      ∃ before call after findings failure, rule.hooks root = before ++ call :: after ∧
        rule.FailsAt options surroundings before findings call failure := by
  cases created : rule.create options with
  | error failure => exact .inr ⟨[], .create, _, [], failure, rfl, .create created⟩
  | ok state =>
      exact (Completes.create created).or_failsAt _ (rule.create_not_mem_tail_hooks root)

def takes (rule : Rule) : Hook → Bool
  | .visit event => rule.wants event
  | _ => true

theorem takes_of_mem_hooks {rule : Rule} {root : Node} {hook : Hook}
    (member : hook ∈ rule.hooks root) : rule.takes hook = true := by
  simp only [hooks, List.mem_cons, List.mem_append, List.mem_map, List.mem_filter,
    List.not_mem_nil, or_false] at member
  rcases member with rfl | ⟨event, ⟨-, wanted⟩, rfl⟩ | rfl
  · rfl
  · exact wanted
  · rfl

end Rule

/-! ## A rule alone -/

namespace Traced

def offer (policy : Policy) (root : Node) (registered : RegisteredRule) (traced : Traced) :
    Hook → Traced
  | .create =>
      ⟨traced.run.join
          (Run.startOne policy root.startPosition registered.id registered.rule),
        traced.calls ++ [⟨registered.id, .create⟩]⟩
  | .visit event => traced.visit policy event
  | .finish => traced.finish policy root.startPosition

def single (registered : RegisteredRule) (severity : Severity)
    (state : Option registered.rule.State) (diagnostics : List Diagnostic)
    (calls : List Hook) : Traced :=
  ⟨⟨[⟨registered.id, severity, registered.rule, state⟩], diagnostics⟩,
    calls.map fun hook => ⟨registered.id, hook⟩⟩

theorem IsOver.foldl_offer {policy : Policy} {root : Node} {registered : RegisteredRule}
    {traced : Traced} (dead : traced.IsOver) {calls : List Hook} (created : .create ∉ calls) :
    calls.foldl (offer policy root registered) traced = traced := by
  induction calls with
  | nil => rfl
  | cons hook rest ih =>
      rw [List.mem_cons, not_or] at created
      have same : traced.offer policy root registered hook = traced := by
        cases hook with
        | create => exact absurd rfl created.1
        | visit event => exact dead.visit event
        | finish => exact dead.finish
      rw [List.foldl_cons, same]
      exact ih created.2

theorem offer_single {policy : Policy} {root : Node} {registered : RegisteredRule}
    {severity : Severity} {state : registered.rule.State} {diagnostics : List Diagnostic}
    {calls : List Hook} {hook : Hook} {outcome : Outcome registered.rule.State}
    (taken : registered.rule.takes hook = true)
    (answered : registered.rule.answer?
      ⟨registered.id, policy.globals, policy.capabilities⟩ hook state = some outcome) :
    (single registered severity (some state) diagnostics calls).offer policy root registered hook =
      single registered severity outcome.result.toOption
        (diagnostics ++ reported registered.id severity (hook.position root) outcome)
        (calls ++ [hook]) := by
  cases hook with
  | create => cases answered
  | visit event =>
      have live : (⟨registered.id, severity, registered.rule, some state⟩ : ActiveRule).visit
          policy event = _ := ActiveRule.visit_of_live rfl taken
      simp only [Rule.answer?, Option.some.injEq] at answered
      subst answered
      have wanted : (⟨registered.id, severity, registered.rule, some state⟩ : ActiveRule).wants
          event = true := taken
      simp only [offer, single, visit, Run.visit, Run.advance_eq, Run.calls, List.map_cons,
        List.map_nil, List.flatMap_cons, List.flatMap_nil, List.append_nil, live,
        List.filter_cons, wanted, List.filter_nil, List.map_append]
      rfl
  | finish =>
      have live : (⟨registered.id, severity, registered.rule, some state⟩ : ActiveRule).finish
          policy root.startPosition = _ := ActiveRule.call_of_live rfl _ _
      simp only [Rule.answer?, Option.some.injEq] at answered
      subst answered
      simp only [offer, single, finish, Run.advance_eq, List.map_cons, List.map_nil,
        List.flatMap_cons, List.flatMap_nil, List.append_nil, live, List.map_append]
      rfl

section Alone

variable {policy : Policy} {registered : RegisteredRule} {binding : RuleBinding}

theorem foldl_offer_of_completes (root : Node)
    (enabled : policy.activeBinding? registered.id = some binding)
    {calls : List Hook} {findings : List Finding} {state : registered.rule.State}
    (completes : registered.rule.Completes binding.options
      ⟨registered.id, policy.globals, policy.capabilities⟩ calls findings state)
    (taken : ∀ hook ∈ calls, registered.rule.takes hook = true) :
    calls.foldl (offer policy root registered) ⟨⟨[], []⟩, []⟩ =
      single registered binding.severity (some state)
        (findings.map (diagnosticOf registered.id binding.severity)) calls := by
  induction completes with
  | create created => simp [offer, Run.startOne, enabled, created, Run.join, single]
  | @call calls findings state next hook outcome before answered succeeded ih =>
      have earlier := ih fun other member => taken other (List.mem_append_left _ member)
      have last := taken hook (List.mem_append_right _ List.mem_cons_self)
      rw [List.foldl_append, earlier, List.foldl_cons, List.foldl_nil,
        offer_single last answered]
      simp [reported, succeeded, Except.toOption]

theorem foldl_offer_of_failsAt (root : Node)
    (enabled : policy.activeBinding? registered.id = some binding)
    {calls : List Hook} {findings : List Finding} {hook : Hook} {failure : Failure}
    (fails : registered.rule.FailsAt binding.options
      ⟨registered.id, policy.globals, policy.capabilities⟩ calls findings hook failure)
    (taken : ∀ other ∈ calls ++ [hook], registered.rule.takes other = true) :
    ∃ ended : Traced, ended.IsOver ∧
      (calls ++ [hook]).foldl (offer policy root registered) ⟨⟨[], []⟩, []⟩ = ended ∧
      ended.run.diagnostics = findings.map (diagnosticOf registered.id binding.severity) ++
        [failureDiagnostic registered.id failure (hook.position root)] ∧
      ended.calls = (calls ++ [hook]).map fun other => ⟨registered.id, other⟩ := by
  cases fails with
  | create refused =>
      refine ⟨_, ?_, rfl, ?_⟩ <;>
        simp [offer, Run.startOne, enabled, refused, Run.join, IsOver, Hook.position]
  | call before answered failed =>
      have earlier := foldl_offer_of_completes root enabled before
        fun other member => taken other (List.mem_append_left _ member)
      have last := taken hook (List.mem_append_right _ List.mem_cons_self)
      have ended : (calls ++ [hook]).foldl (offer policy root registered) ⟨⟨[], []⟩, []⟩ =
          single registered binding.severity none
            (findings.map (diagnosticOf registered.id binding.severity) ++
              [failureDiagnostic registered.id failure (hook.position root)])
            (calls ++ [hook]) := by
        rw [List.foldl_append, earlier, List.foldl_cons, List.foldl_nil,
          offer_single last answered]
        simp [reported, failed, Except.toOption]
      exact ⟨_, by simp [single, IsOver], ended, rfl, rfl⟩

theorem foldl_visit_filter {rule : Rule} {traced : Traced}
    (hosts : ∀ active ∈ traced.run.active, active.rule = rule) (events : List Visit) :
    (events.filter rule.wants).foldl (visit policy) traced =
      events.foldl (visit policy) traced := by
  induction events generalizing traced with
  | nil => rfl
  | cons event rest ih =>
      cases wanted : rule.wants event with
      | true =>
          rw [List.filter_cons_of_pos wanted, List.foldl_cons, List.foldl_cons]
          apply ih
          intro active member
          obtain ⟨earlier, inRun, rfl⟩ : ∃ earlier ∈ traced.run.active,
              (earlier.visit policy event).1 = active := by
            simpa [visit, Run.visit, Run.advance_eq] using member
          rw [earlier.visit_rule, hosts earlier inRun]
      | false =>
          have idle : traced.visit policy event = traced :=
            visit_of_unwanted fun active member => by
              simp [ActiveRule.wants, hosts active member, wanted]
          rw [List.filter_cons_of_neg (by simp [wanted]), List.foldl_cons, idle]
          exact ih hosts

theorem complete_singleton (root : Node)
    (enabled : policy.activeBinding? registered.id = some binding) :
    complete policy root [registered] =
      (registered.rule.hooks root).foldl (offer policy root registered) ⟨⟨[], []⟩, []⟩ := by
  have started : start policy root.startPosition [registered] =
      offer policy root registered ⟨⟨[], []⟩, []⟩ .create := by
    have begun : Run.start policy root.startPosition [registered] =
        (Run.startOne policy root.startPosition registered.id registered.rule).join ⟨[], []⟩ :=
      Run.start_cons policy root.startPosition registered []
    simp [start, offer, enabled, begun, Run.join]
  have hosts : ∀ active ∈ (offer policy root registered ⟨⟨[], []⟩, []⟩ .create).run.active,
      active.rule = registered.rule := by
    cases created : registered.rule.create binding.options <;>
      simp [offer, Run.startOne, enabled, created, Run.join]
  rw [complete, started, walkTree_eq_foldl, ← foldl_visit_filter hosts, Rule.hooks,
    List.foldl_cons, List.foldl_append, List.foldl_map]
  rfl

end Alone

end Traced

/--
What an enabled rule contributes to an evaluation, and the calls made to it.  If none
of its calls fails, all are made and the contribution is what they report.  If one
fails, what was reported before it stands, one blocking diagnostic at the node it was
called for takes the place of all else, and it is the last call.
-/
theorem contribution_of_enabled_rule {registry : Registry} (reachable : registry.Reachable)
    {policy : Policy} {registered : RegisteredRule} (member : registered ∈ registry.rules)
    {binding : RuleBinding} (enabled : policy.activeBinding? registered.id = some binding)
    (root : Node) :
    let rule := registered.rule
    let surroundings : Surroundings := ⟨registered.id, policy.globals, policy.capabilities⟩
    let contribution :=
      (registry.findings policy root).filter fun diagnostic => diagnostic.ruleId = registered.id
    let made := ((Traced.complete policy root registry.rules).calls.filter fun call =>
      call.ruleId = registered.id).map (·.hook)
    (∀ findings state,
        rule.Completes binding.options surroundings (rule.hooks root) findings state →
          contribution = findings.map (diagnosticOf registered.id binding.severity) ∧
            made = rule.hooks root) ∧
      (∀ before call after findings failure, rule.hooks root = before ++ call :: after →
        rule.FailsAt binding.options surroundings before findings call failure →
          contribution = findings.map (diagnosticOf registered.id binding.severity) ++
              [{ ruleId := registered.id, code := "rule_internal_error", severity := .blocking
                 message := s!"Rule '{registered.id}' failed: {failure.message}"
                 position := call.position root, fingerprint := none }] ∧
            made = before ++ [call]) ∧
      ((∃ findings state,
          rule.Completes binding.options surroundings (rule.hooks root) findings state) ∨
        ∃ before call after findings failure, rule.hooks root = before ++ call :: after ∧
          rule.FailsAt binding.options surroundings before findings call failure) := by
  intro rule surroundings contribution made
  have alone : (Traced.complete policy root registry.rules).only registered.id =
      (rule.hooks root).foldl (Traced.offer policy root registered) ⟨⟨[], []⟩, []⟩ := by
    rw [Traced.only_complete, Registry.filter_id_of_mem reachable.indexed.distinct member,
      Traced.complete_singleton root enabled]
  have contribution_eq : contribution =
      ((Traced.complete policy root registry.rules).only registered.id).run.diagnostics :=
    congrArg (List.filter _) (registry.findings_eq policy root)
  have made_eq : made =
      ((Traced.complete policy root registry.rules).only registered.id).calls.map (·.hook) := rfl
  rw [contribution_eq, made_eq, alone]
  refine ⟨?_, ?_, rule.completes_or_failsAt binding.options surroundings root⟩
  · intro findings state completes
    rw [Traced.foldl_offer_of_completes root enabled completes
      fun hook inHooks => Rule.takes_of_mem_hooks inHooks]
    simp [Traced.single, Function.comp_def]
  · intro before call after findings failure split fails
    have regroup : rule.hooks root = (before ++ [call]) ++ after := by simp [split]
    have taken : ∀ other ∈ before ++ [call], rule.takes other = true := by
      intro other inCalls
      have inHooks : other ∈ rule.hooks root := regroup ▸ List.mem_append_left after inCalls
      exact Rule.takes_of_mem_hooks inHooks
    obtain ⟨ended, dead, reached, reports, calls⟩ :=
      Traced.foldl_offer_of_failsAt root enabled fails taken
    rw [regroup, List.foldl_append, reached,
      dead.foldl_offer (Rule.create_not_mem_of_hooks_eq split), reports, calls]
    simp [failureDiagnostic, Function.comp_def]

/-- A string literal without source text, as the whole tree: its rule fails on the way in. -/
theorem contribution_of_failing_quotes :
    let policy : Policy :=
      ⟨∅, .default, ∅, .ofList [("quote-style", ⟨.advisory, []⟩)]⟩
    let root : Node := ⟨.stringLiteral, .zero, .zero, .empty, []⟩
    ((Registry.builtIn .standard).findings policy root).filter (fun diagnostic =>
        diagnostic.ruleId = "quote-style") =
      [⟨"quote-style", "rule_internal_error", .blocking,
        "Rule 'quote-style' failed: string literal without raw text", .zero, none⟩] := by
  intro policy root
  have member : ⟨"quote-style", none, Rules.QuoteStyle.rule⟩ ∈ (Registry.builtIn .standard).rules :=
    List.mem_of_getElem? (i := 1) rfl
  have enabled : policy.activeBinding? "quote-style" = some ⟨.advisory, []⟩ := rfl
  have contribution := contribution_of_enabled_rule .builtIn member enabled root
  exact (contribution.2.1 [.create] (.visit ⟨.enter, ⟨root, 0⟩, []⟩)
    [.visit ⟨.exit, ⟨root, 0⟩, []⟩, .finish] [] (.internal "string literal without raw text") rfl
    (.call (.create rfl) rfl rfl)).1

end ScriptLint
