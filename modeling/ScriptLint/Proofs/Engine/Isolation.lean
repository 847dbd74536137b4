import ScriptLint.Proofs.Dictionary.Lookup
import ScriptLint.Proofs.Engine.HookCalls
import ScriptLint.Proofs.Registry.Reachable
import ScriptLint.Proofs.Report.Order

/-!
# Isolation of rules

All rules take part in one walk and report into one list.  Still none can tell
whether others are there: what is left of a run when all rules but those with one id
are taken out of it goes its own way, step by step.  Together with the distinct ids
of a registry and the stable order of a report, this makes a report the
sorted union of the reports on each rule alone.
-/

namespace ScriptLint

/-! ## One rule of a policy -/

namespace Policy

def only (policy : Policy) (id : String) : Policy :=
  { policy with rules := policy.rules.filter fun other => other = id }

def without (policy : Policy) (id : String) : Policy :=
  { policy with rules := policy.rules.filter fun other => other ≠ id }

theorem activeBinding?_only (policy : Policy) (id other : String) :
    (policy.only id).activeBinding? other =
      if other = id then policy.activeBinding? other else none := by
  by_cases same : other = id <;> simp [activeBinding?, only, same]

theorem activeBinding?_without (policy : Policy) (id other : String) :
    (policy.without id).activeBinding? other =
      if other = id then none else policy.activeBinding? other := by
  by_cases same : other = id <;> simp [activeBinding?, without, same]

end Policy

/-! ## Steps of single rules -/

/-- A step after which a rule is still the same rule, and which reports in its name only. -/
def OwnStep (step : ActiveRule → ActiveRule × List Diagnostic) : Prop :=
  ∀ active, (step active).1.id = active.id ∧
    ∀ diagnostic ∈ (step active).2, diagnostic.ruleId = active.id

namespace ActiveRule

theorem call_own (active : ActiveRule) (position : Position)
    (hook : active.rule.State → Outcome active.rule.State) :
    (active.call position hook).1.id = active.id ∧
      ∀ diagnostic ∈ (active.call position hook).2, diagnostic.ruleId = active.id := by
  cases live : active.state with
  | none => simp [call_of_state_none live]
  | some state =>
      simp only [call, live]
      cases (hook state).result <;>
        simp [Evaluation.diagnosticOf, Evaluation.failureDiagnostic]

theorem visit_own (policy : Policy) (event : Visit) :
    OwnStep fun active => active.visit policy event := by
  intro active
  simp only [visit_eq]
  split
  · exact active.call_own _ _
  · simp

theorem finish_own (policy : Policy) (position : Position) :
    OwnStep (finish policy position) :=
  fun active => active.call_own _ _

end ActiveRule

/-! ## Parts of runs -/

namespace Run

def only (id : String) (run : Run) : Run :=
  ⟨run.active.filter fun active => active.id = id,
    run.diagnostics.filter (Diagnostic.ofRule id)⟩

def join (first second : Run) : Run :=
  ⟨first.active ++ second.active, first.diagnostics ++ second.diagnostics⟩

theorem only_join (id : String) (first second : Run) :
    (first.join second).only id = (first.only id).join (second.only id) := by
  simp [only, join]

theorem only_advance (id : String) (run : Run)
    {step : ActiveRule → ActiveRule × List Diagnostic} (own : OwnStep step) :
    (run.advance step).only id = (run.only id).advance step := by
  simp only [advance_eq, only, List.filter_append, Run.mk.injEq, List.append_cancel_left_eq]
  induction run.active with
  | nil => simp
  | cons active rest ih =>
      by_cases isOwn : active.id = id
      · have stays : (step active).1.id = id := (own active).1.trans isOwn
        have kept : (step active).2.filter (Diagnostic.ofRule id) = (step active).2 :=
          List.filter_eq_self.mpr fun diagnostic member => by
            simp [Diagnostic.ofRule, (own active).2 diagnostic member, isOwn]
        simp [isOwn, stays, kept, ih]
      · have stays : (step active).1.id ≠ id := fun same => isOwn ((own active).1 ▸ same)
        have dropped : (step active).2.filter (Diagnostic.ofRule id) = [] :=
          List.filter_eq_nil_iff.mpr fun diagnostic member => by
            simp [Diagnostic.ofRule, (own active).2 diagnostic member, isOwn]
        simp [isOwn, stays, dropped, ih]

/-! ## Starting a run -/

def startOne (policy : Policy) (position : Position) (id : String) (rule : Rule) : Run :=
  match policy.activeBinding? id with
  | none => ⟨[], []⟩
  | some binding =>
      match rule.create binding.options with
      | .ok state => ⟨[⟨id, binding.severity, rule, some state⟩], []⟩
      | .error failure => ⟨[], [Evaluation.failureDiagnostic id failure position]⟩

theorem start_eq_foldl (policy : Policy) (position : Position) (rules : List RegisteredRule) :
    start policy position rules =
      rules.foldl (fun run registered =>
        run.join (startOne policy position registered.id registered.rule)) ⟨[], []⟩ := by
  rw [start]
  congr 1
  funext run registered
  cases bound : policy.activeBinding? registered.id with
  | none => simp [startOne, bound, join]
  | some binding =>
      cases created : registered.rule.create binding.options <;>
        simp [startOne, bound, created, join]

theorem foldl_startOne (policy : Policy) (position : Position) (rules : List RegisteredRule)
    (run : Run) :
    rules.foldl (fun current registered =>
        current.join (startOne policy position registered.id registered.rule)) run =
      run.join (start policy position rules) := by
  rw [start_eq_foldl]
  induction rules generalizing run with
  | nil => simp [join]
  | cons registered rest ih =>
      rw [List.foldl_cons, List.foldl_cons, ih, ih (join ⟨[], []⟩ _)]
      simp [join]

theorem start_cons (policy : Policy) (position : Position) (registered : RegisteredRule)
    (rest : List RegisteredRule) :
    start policy position (registered :: rest) =
      (startOne policy position registered.id registered.rule).join
        (start policy position rest) := by
  rw [start_eq_foldl, List.foldl_cons, foldl_startOne]
  simp [join]

theorem startOne_only (policy : Policy) (position : Position) (id other : String) (rule : Rule) :
    (startOne policy position other rule).only id =
      if other = id then startOne policy position other rule else ⟨[], []⟩ := by
  rw [startOne]
  split
  · simp [only]
  · split <;> by_cases same : other = id <;>
      simp [only, same, Diagnostic.ofRule, Evaluation.failureDiagnostic]

theorem startOne_policy_only (policy : Policy) (position : Position) (id other : String)
    (rule : Rule) :
    startOne (policy.only id) position other rule =
      if other = id then startOne policy position other rule else ⟨[], []⟩ := by
  simp only [startOne, Policy.activeBinding?_only]
  by_cases same : other = id <;> simp [same]

theorem only_start (policy : Policy) (position : Position) (id : String)
    (rules : List RegisteredRule) :
    (start policy position rules).only id =
        start policy position (rules.filter fun registered => registered.id = id) ∧
      start (policy.only id) position rules =
        start policy position (rules.filter fun registered => registered.id = id) := by
  induction rules with
  | nil => exact ⟨rfl, rfl⟩
  | cons registered rest ih =>
      rw [start_cons, start_cons, only_join, ih.1, ih.2, startOne_only, startOne_policy_only,
        List.filter_cons]
      by_cases same : registered.id = id
      · simp [same, start_cons]
      · simp [same, join]

theorem start_congr (policy : Policy) (position : Position)
    {rules others : List RegisteredRule}
    (same : rules.map (fun registered => (registered.id, registered.rule)) =
      others.map fun registered => (registered.id, registered.rule)) :
    start policy position rules = start policy position others := by
  have byPairs (listed : List RegisteredRule) : start policy position listed =
      (listed.map fun registered => (registered.id, registered.rule)).foldl
        (fun run pair => run.join (startOne policy position pair.1 pair.2)) ⟨[], []⟩ := by
    rw [start_eq_foldl, List.foldl_map]
  rw [byPairs, byPairs, same]

theorem start_congr_policy {policy other : Policy} (position : Position)
    {rules : List RegisteredRule}
    (same : ∀ registered ∈ rules,
      other.activeBinding? registered.id = policy.activeBinding? registered.id) :
    start other position rules = start policy position rules := by
  induction rules with
  | nil => rfl
  | cons registered rest ih =>
      have first := same registered List.mem_cons_self
      have others := ih fun later member => same later (List.mem_cons_of_mem _ member)
      rw [start_cons, start_cons, others]
      simp only [startOne, first]

theorem start_of_inactive {policy : Policy} (position : Position) {rules : List RegisteredRule}
    (inactive : ∀ registered ∈ rules, policy.activeBinding? registered.id = none) :
    start policy position rules = ⟨[], []⟩ := by
  induction rules with
  | nil => rfl
  | cons registered rest ih =>
      have first := inactive registered List.mem_cons_self
      rw [start_cons, ih fun later member => inactive later (List.mem_cons_of_mem _ member)]
      simp [startOne, first, join]

end Run

/-! ## Whole evaluations -/

namespace Traced

def only (id : String) (traced : Traced) : Traced :=
  ⟨traced.run.only id, traced.calls.filter fun call => call.ruleId = id⟩

theorem only_visit (id : String) (policy : Policy) (traced : Traced) (event : Visit) :
    (traced.visit policy event).only id = (traced.only id).visit policy event := by
  have ownRun : (traced.run.visit policy event).only id =
      (traced.run.only id).visit policy event :=
    traced.run.only_advance id (ActiveRule.visit_own policy event)
  simp only [visit, only, ownRun, List.filter_append]
  simp [Run.calls, Run.only, List.filter_map, List.filter_filter, Function.comp_def,
    Bool.and_comm]

theorem only_finish (id : String) (policy : Policy) (position : Position) (traced : Traced) :
    (traced.finish policy position).only id = (traced.only id).finish policy position := by
  have ownRun := traced.run.only_advance id (ActiveRule.finish_own policy position)
  simp only [finish, only, ownRun, List.filter_append]
  simp [Run.only, List.filter_map, List.filter_filter, Function.comp_def, Bool.and_comm]

theorem only_start (id : String) (policy : Policy) (position : Position)
    (rules : List RegisteredRule) :
    (start policy position rules).only id =
      start policy position (rules.filter fun registered => registered.id = id) := by
  simp only [start, only, (Run.only_start policy position id rules).1]
  simp [List.filter_map, List.filter_filter, Function.comp_def, Bool.and_comm]

theorem start_policy_only (id : String) (policy : Policy) (position : Position)
    (rules : List RegisteredRule) :
    start (policy.only id) position rules =
      start policy position (rules.filter fun registered => registered.id = id) := by
  simp only [start, (Run.only_start policy position id rules).2, Policy.activeBinding?_only,
    List.filter_filter]
  congr 3
  funext registered
  by_cases same : registered.id = id <;> simp [same]

theorem only_complete (id : String) (policy : Policy) (root : Node)
    (rules : List RegisteredRule) :
    (complete policy root rules).only id =
      complete policy root (rules.filter fun registered => registered.id = id) := by
  have walked (events : List Visit) (traced : Traced) :
      (events.foldl (visit policy) traced).only id =
        events.foldl (visit policy) (traced.only id) := by
    induction events generalizing traced with
    | nil => rfl
    | cons event rest ih => rw [List.foldl_cons, ih, only_visit, List.foldl_cons]
  simp only [complete, walkTree_eq_foldl, only_finish, walked, only_start]

theorem complete_policy_only (id : String) (policy : Policy) (root : Node)
    (rules : List RegisteredRule) :
    complete (policy.only id) root rules =
      complete policy root (rules.filter fun registered => registered.id = id) := by
  rw [complete, start_policy_only]
  rfl

theorem complete_of_inactive {policy : Policy} (root : Node) {rules : List RegisteredRule}
    (inactive : ∀ registered ∈ rules, policy.activeBinding? registered.id = none) :
    (complete policy root rules).run.diagnostics = [] := by
  have started := Run.start_of_inactive root.startPosition inactive
  have dead : (start policy root.startPosition rules).IsOver := by simp [IsOver, start, started]
  rw [complete, dead.walkTree, dead.finish]
  simp [start, started]

end Traced

namespace Registry

theorem filter_ofRule_findings (registry : Registry) (policy : Policy) (root : Node)
    (id : String) :
    (registry.findings policy root).filter (Diagnostic.ofRule id) =
      (Traced.complete policy root
        (registry.rules.filter fun registered => registered.id = id)).run.diagnostics := by
  rw [← Traced.only_complete, findings_eq]
  rfl

theorem findings_only (registry : Registry) (policy : Policy) (root : Node) (id : String) :
    registry.findings (policy.only id) root =
      (registry.findings policy root).filter (Diagnostic.ofRule id) := by
  rw [filter_ofRule_findings, findings_eq, Traced.complete_policy_only]

theorem evaluate_only (registry : Registry) (policy : Policy) (tree : SyntaxTree)
    (id : String) :
    (registry.evaluate (policy.only id) tree).diagnostics =
      (registry.evaluate policy tree).diagnostics.filter (Diagnostic.ofRule id) := by
  rw [evaluate, evaluate, Diagnostic.filter_ofRule_ofDiagnostics, findings_only]

theorem evaluate_only_of_idle {registry : Registry} {policy : Policy} {id : String}
    (idle : policy.activeBinding? id = none ∨ id ∉ registry.rules.map (·.id))
    (tree : SyntaxTree) : (registry.evaluate (policy.only id) tree).diagnostics = [] := by
  have noFindings : registry.findings (policy.only id) tree.root = [] := by
    rw [findings_only, filter_ofRule_findings]
    apply Traced.complete_of_inactive
    intro registered member
    obtain ⟨inRules, isOwn⟩ := List.mem_filter.mp member
    obtain rfl : registered.id = id := of_decide_eq_true isOwn
    exact idle.resolve_right fun absent => absent (List.mem_map_of_mem inRules)
  simp [evaluate, noFindings, FileReport.ofDiagnostics]

theorem evaluate_without_of_idle {registry : Registry} {policy : Policy} {id : String}
    (idle : policy.activeBinding? id = none ∨ id ∉ registry.rules.map (·.id))
    (tree : SyntaxTree) :
    registry.evaluate (policy.without id) tree = registry.evaluate policy tree := by
  have sameStart : Run.start (policy.without id) tree.root.startPosition registry.rules =
      Run.start policy tree.root.startPosition registry.rules := by
    apply Run.start_congr_policy
    intro registered member
    rw [Policy.activeBinding?_without]
    split
    · rename_i isOwn
      subst isOwn
      exact (idle.resolve_right fun absent => absent (List.mem_map_of_mem member)).symm
    · rfl
  have sameFindings : registry.findings (policy.without id) tree.root =
      registry.findings policy tree.root := by
    simp only [findings, sameStart]
    rfl
  rw [evaluate, evaluate, sameFindings]

/-! ## Distinct ids -/

theorem filter_id_of_mem {rules : List RegisteredRule} (distinct : (rules.map (·.id)).Nodup)
    {registered : RegisteredRule} (member : registered ∈ rules) :
    rules.filter (fun other => other.id = registered.id) = [registered] := by
  induction rules with
  | nil => cases member
  | cons first rest ih =>
      obtain ⟨notLater, restDistinct⟩ := List.nodup_cons.mp distinct
      rcases List.mem_cons.mp member with rfl | inRest
      · have noneLater : rest.filter (fun other => other.id = registered.id) = [] := by
          rw [List.filter_eq_nil_iff]
          intro other later same
          exact notLater (List.mem_map.mpr ⟨other, later, of_decide_eq_true same⟩)
        simp [noneLater]
      · have different : first.id ≠ registered.id := fun same =>
          notLater (List.mem_map.mpr ⟨registered, inRest, same.symm⟩)
        simp [different, ih restDistinct inRest]

theorem filter_id_of_not_mem {rules : List RegisteredRule} {id : String}
    (absent : id ∉ rules.map (·.id)) :
    rules.filter (fun registered => registered.id = id) = [] := by
  rw [List.filter_eq_nil_iff]
  intro registered member same
  exact absent (List.mem_map.mpr ⟨registered, member, of_decide_eq_true same⟩)

/-- Registries with the same rule under an id say the same about it, whatever else they hold. -/
theorem filter_ofRule_findings_eq {registry other : Registry} (reachable : registry.Reachable)
    (otherReachable : other.Reachable) {registered counterpart : RegisteredRule}
    (member : registered ∈ registry.rules) (otherMember : counterpart ∈ other.rules)
    (sameId : counterpart.id = registered.id) (sameRule : counterpart.rule = registered.rule)
    (policy : Policy) (root : Node) :
    (other.findings policy root).filter (Diagnostic.ofRule registered.id) =
      (registry.findings policy root).filter (Diagnostic.ofRule registered.id) := by
  have sameRun : Run.start policy root.startPosition [counterpart] =
      Run.start policy root.startPosition [registered] :=
    Run.start_congr policy root.startPosition (by simp [sameId, sameRule])
  have sameStart : Traced.start policy root.startPosition [counterpart] =
      Traced.start policy root.startPosition [registered] := by
    simp only [Traced.start, sameRun, List.filter_cons, List.filter_nil, sameId]
    split <;> simp [sameId]
  rw [filter_ofRule_findings, filter_ofRule_findings,
    filter_id_of_mem reachable.indexed.distinct member, ← sameId,
    filter_id_of_mem otherReachable.indexed.distinct otherMember, Traced.complete,
    Traced.complete, sameStart]

theorem evaluate_eq_of_perm {registry other : Registry} (reachable : registry.Reachable)
    (otherReachable : other.Reachable)
    (samePairs : (other.rules.map fun registered => (registered.id, registered.rule)).Perm
      (registry.rules.map fun registered => (registered.id, registered.rule)))
    (policy : Policy) (tree : SyntaxTree) :
    other.evaluate policy tree = registry.evaluate policy tree := by
  apply Diagnostic.ofDiagnostics_eq_of_filter_ofRule_eq
  intro id
  have sameIds : id ∈ other.rules.map (·.id) ↔ id ∈ registry.rules.map (·.id) := by
    have ids := (samePairs.map Prod.fst).mem_iff (a := id)
    simpa [Function.comp_def] using ids
  by_cases present : id ∈ registry.rules.map (·.id)
  · obtain ⟨registered, member, rfl⟩ := List.mem_map.mp present
    obtain ⟨counterpart, otherMember, same⟩ := List.mem_map.mp
      (samePairs.mem_iff.mpr (List.mem_map_of_mem member))
    obtain ⟨sameId, sameRule⟩ := Prod.mk.inj same
    exact filter_ofRule_findings_eq reachable otherReachable member otherMember sameId sameRule
      policy tree.root
  · rw [filter_ofRule_findings, filter_ofRule_findings, filter_id_of_not_mem present,
      filter_id_of_not_mem fun inOther => present (sameIds.mp inOther)]

/-! ## The report and the reports on single rules -/

private theorem filter_ofRule_flatMap (rules : List RegisteredRule)
    (diagnostics : List Diagnostic) (id : String) :
    (rules.flatMap fun registered =>
        diagnostics.filter (Diagnostic.ofRule registered.id)).filter (Diagnostic.ofRule id) =
      (rules.filter fun registered => registered.id = id).flatMap fun _ =>
        diagnostics.filter (Diagnostic.ofRule id) := by
  induction rules with
  | nil => rfl
  | cons registered rest ih =>
      rw [List.flatMap_cons, List.filter_append, ih]
      by_cases isOwn : registered.id = id
      · simp [isOwn]
      · have apart : (diagnostics.filter (Diagnostic.ofRule registered.id)).filter
            (Diagnostic.ofRule id) = [] := by
          rw [List.filter_eq_nil_iff]
          intro diagnostic member
          have ofOther := (List.mem_filter.mp member).2
          simp only [Diagnostic.ofRule, decide_eq_true_eq] at ofOther ⊢
          exact fun same => isOwn (ofOther.symm.trans same)
        simp [isOwn, apart]

theorem evaluate_eq_mergeSort_flatMap {registry : Registry} (reachable : registry.Reachable)
    (policy : Policy) (tree : SyntaxTree) :
    (registry.evaluate policy tree).diagnostics =
      (registry.rules.flatMap fun registered =>
        (registry.evaluate (policy.only registered.id) tree).diagnostics).mergeSort
          Diagnostic.notAfter := by
  have sorted : Diagnostic.Sorted (registry.evaluate policy tree).diagnostics :=
    Diagnostic.sorted_ofDiagnostics tree.path (registry.findings policy tree.root)
  refine (List.mergeSort_of_pairwise sorted).symm.trans ?_
  apply Diagnostic.mergeSort_eq_of_filter_ofRule_eq
  intro id
  simp only [evaluate_only]
  rw [filter_ofRule_flatMap]
  by_cases present : id ∈ registry.rules.map (·.id)
  · obtain ⟨registered, member, rfl⟩ := List.mem_map.mp present
    rw [filter_id_of_mem reachable.indexed.distinct member, List.flatMap_singleton]
  · rw [filter_id_of_not_mem present, List.flatMap_nil]
    exact (evaluate_only registry policy tree id).symm.trans
      (evaluate_only_of_idle (.inr present) tree)

/--
Every rule reports as if it were alone: the report lists, in order, what the rules
report when only one of them is bound.  So the part of a report that is about one
rule does not depend on the other rules, bindings that are off or of unknown rules
have no effect, and the order of registration has none.
-/
theorem evaluate_isolates_rules {registry : Registry} (reachable : registry.Reachable)
    (policy : Policy) (tree : SyntaxTree) :
    (registry.evaluate policy tree).diagnostics =
        (registry.rules.flatMap fun registered =>
          (registry.evaluate (policy.only registered.id) tree).diagnostics).mergeSort
            Diagnostic.notAfter ∧
      (∀ id, (registry.evaluate policy tree).diagnostics.filter (Diagnostic.ofRule id) =
        (registry.evaluate (policy.only id) tree).diagnostics) ∧
      (∀ (other : Registry) (registered counterpart : RegisteredRule), other.Reachable →
        registered ∈ registry.rules → counterpart ∈ other.rules →
        counterpart.id = registered.id → counterpart.rule = registered.rule →
          (other.evaluate policy tree).diagnostics.filter (Diagnostic.ofRule registered.id) =
            (registry.evaluate policy tree).diagnostics.filter
              (Diagnostic.ofRule registered.id)) ∧
      (∀ id, (policy.activeBinding? id = none ∨ id ∉ registry.rules.map (·.id)) →
        (registry.evaluate (policy.only id) tree).diagnostics = [] ∧
          registry.evaluate (policy.without id) tree = registry.evaluate policy tree) ∧
      (∀ other : Registry, other.Reachable →
        (other.rules.map fun registered => (registered.id, registered.rule)).Perm
          (registry.rules.map fun registered => (registered.id, registered.rule)) →
        other.evaluate policy tree = registry.evaluate policy tree) := by
  refine ⟨evaluate_eq_mergeSort_flatMap reachable policy tree,
    fun id => (evaluate_only registry policy tree id).symm, ?_,
    fun id idle => ⟨evaluate_only_of_idle idle tree, evaluate_without_of_idle idle tree⟩,
    fun other otherReachable samePairs =>
      evaluate_eq_of_perm reachable otherReachable samePairs policy tree⟩
  intro other registered counterpart otherReachable member otherMember sameId sameRule
  simp only [evaluate, Diagnostic.filter_ofRule_ofDiagnostics]
  rw [filter_ofRule_findings_eq reachable otherReachable member otherMember sameId sameRule]

/-- Two rules registered in either order, on a tree that both report on. -/
theorem evaluate_isolates_two_orders :
    let debuggerFirst := (empty.add none Rules.NoDebugger.rule).add none Rules.NoVar.rule
    let varFirst := (empty.add none Rules.NoVar.rule).add none Rules.NoDebugger.rule
    let policy : Policy := ⟨∅, ⟨.latest, .module⟩, ∅,
      .ofList [("no-debugger", ⟨.blocking, []⟩), ("no-var", ⟨.advisory, []⟩)]⟩
    let tree : SyntaxTree := ⟨⟨"a.js"⟩, ⟨.program, .zero, .zero, .empty,
      [⟨.variableDeclaration, .zero, .zero, { Attributes.empty with declaration := some .var }, []⟩,
        ⟨.debuggerStatement, .zero, .zero, .empty, []⟩]⟩⟩
    let ofDebugger : Diagnostic := ⟨"no-debugger", "debugger_statement", .blocking,
      "Unexpected 'debugger' statement.", .zero, none⟩
    let ofVar : Diagnostic := ⟨"no-var", "var_declaration", .advisory,
      "Unexpected var, use let or const instead.", .zero, none⟩
    debuggerFirst.Reachable ∧ varFirst.Reachable ∧
      (debuggerFirst.evaluate policy tree).diagnostics =
        [ofDebugger.stamped tree.path, ofVar.stamped tree.path] ∧
      (debuggerFirst.evaluate (policy.only "no-var") tree).diagnostics =
        [ofVar.stamped tree.path] ∧
      varFirst.evaluate policy tree = debuggerFirst.evaluate policy tree := by
  intro debuggerFirst varFirst policy tree ofDebugger ofVar
  have reachable : debuggerFirst.Reachable :=
    .register (.register .empty (show empty.register Rules.NoDebugger.rule = .ok _ from rfl))
      (show register _ Rules.NoVar.rule = .ok _ from rfl)
  have otherReachable : varFirst.Reachable :=
    .register (.register .empty (show empty.register Rules.NoVar.rule = .ok _ from rfl))
      (show register _ Rules.NoDebugger.rule = .ok _ from rfl)
  have onlyDebugger : (debuggerFirst.evaluate (policy.only "no-debugger") tree).diagnostics =
      [ofDebugger.stamped tree.path] := by
    have found : debuggerFirst.findings (policy.only "no-debugger") tree.root = [ofDebugger] := by
      rw [findings, walkTree_eq_foldl]
      decide
    rw [evaluate, found]
    exact FileReport.ofDiagnostics_toList tree.path (some ofDebugger)
  have onlyVar : (debuggerFirst.evaluate (policy.only "no-var") tree).diagnostics =
      [ofVar.stamped tree.path] := by
    have found : debuggerFirst.findings (policy.only "no-var") tree.root = [ofVar] := by
      rw [findings, walkTree_eq_foldl]
      decide
    rw [evaluate, found]
    exact FileReport.ofDiagnostics_toList tree.path (some ofVar)
  obtain ⟨report, -, -, -, orders⟩ := evaluate_isolates_rules reachable policy tree
  have both : (debuggerFirst.evaluate policy tree).diagnostics =
      [ofDebugger.stamped tree.path, ofVar.stamped tree.path] := by
    have inOrder : [ofDebugger.stamped tree.path, ofVar.stamped tree.path].Pairwise
        fun first second => first.notAfter second = true :=
      List.pairwise_pair.mpr (show ofDebugger.notAfter ofVar = true by decide)
    have alone : debuggerFirst.rules.flatMap (fun registered =>
        (debuggerFirst.evaluate (policy.only registered.id) tree).diagnostics) =
          [ofDebugger.stamped tree.path, ofVar.stamped tree.path] := by
      change (debuggerFirst.evaluate (policy.only "no-debugger") tree).diagnostics ++
        ((debuggerFirst.evaluate (policy.only "no-var") tree).diagnostics ++ []) = _
      rw [onlyDebugger, onlyVar]
      rfl
    rw [report, alone]
    exact List.mergeSort_of_pairwise inOrder
  exact ⟨reachable, otherReachable, both, onlyVar, orders varFirst otherReachable (.swap _ _ _)⟩

end Registry

end ScriptLint
