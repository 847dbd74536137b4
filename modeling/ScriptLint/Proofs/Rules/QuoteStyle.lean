import ScriptLint.Proofs.Engine.Contribution
import ScriptLint.Rules.Style

/-!
# Quotes and missing source texts

The rule on quotes judges literals by their source texts.  A string literal without one
is the only thing it cannot judge.  It therefore reports on all literals if
there is no such node in the tree; otherwise it reports on those before the
first such node in pre-order, fails there, and says no more.
-/

namespace ScriptLint.Rules.QuoteStyle

open Evaluation

/-! ## Judging a node -/

def lacksText (node : Node) : Bool :=
  node.kind = .stringLiteral && (node.raw? = none || node.raw? = some "")

def failure : Failure := .internal "string literal without raw text"

def isFlagged (settings : Settings) (node : Node) : Bool :=
  (accepted settings node).toOption = some false

def judge (settings : Settings) (_ : Context) (node : Node) : Except Failure (List Finding) :=
  (accepted settings node).map fun fine => if fine then [] else [finding settings node]

theorem judgesBy : rule.JudgesBy judge where
  enter settings context node := by
    have judged :
        (accepted settings node).map (fun fine =>
            (settings, if fine then [] else [finding settings node])) =
          (judge settings context node).map fun findings => (settings, findings) := by
      unfold judge
      cases accepted settings node <;> rfl
    exact congrArg Outcome.ofExcept judged
  exit _ _ _ := rfl
  finish _ _ := rfl

theorem stringAccepted_of_ne_empty (settings : Settings) {raw : String} (text : raw ≠ "") :
    ∃ fine, stringAccepted settings raw = .ok fine := by
  rw [stringAccepted]
  split
  · rename_i empty
    exact absurd (String.toList_eq_nil_iff.mp empty) text
  · dsimp only
    split_ifs <;> exact ⟨_, rfl⟩

theorem accepted_of_lacksText (settings : Settings) {node : Node}
    (lacking : lacksText node = true) : accepted settings node = .error failure := by
  simp only [lacksText, Bool.and_eq_true, Bool.or_eq_true, decide_eq_true_eq] at lacking
  obtain ⟨literal, raw | raw⟩ := lacking <;> rw [accepted, literal, raw] <;> rfl

theorem accepted_of_text (settings : Settings) {node : Node}
    (present : lacksText node = false) : ∃ fine, accepted settings node = .ok fine := by
  rw [accepted]
  split
  · rename_i literal
    simp only [lacksText, literal, decide_true, Bool.true_and, Bool.or_eq_false_iff,
      decide_eq_false_iff_not] at present
    obtain ⟨raw, isRaw⟩ := Option.ne_none_iff_exists'.mp present.1
    have text : raw ≠ "" := fun empty => present.2 (by rw [isRaw, empty])
    rw [isRaw]
    exact stringAccepted_of_ne_empty settings text
  · exact ⟨_, rfl⟩
  · exact ⟨_, rfl⟩

theorem accepted_of_other (settings : Settings) {node : Node}
    (other : node.kind ∉ rule.interests) : accepted settings node = .ok true := by
  simp only [rule, List.mem_cons, List.not_mem_nil, or_false, not_or] at other
  rw [accepted]
  split
  · exact absurd ‹_› other.1
  · exact absurd ‹_› other.2
  · rfl

/-! ## Judging the nodes of a walk -/

def isBroken (event : Visit) : Bool := event.entered?.any lacksText

theorem failure?_eq (settings : Settings) (surroundings : Surroundings) (event : Visit) :
    Judge.failure? judge settings surroundings event =
      if isBroken event then some failure else none := by
  obtain ⟨phase, target, ancestors⟩ := event
  cases phase with
  | exit => rfl
  | enter =>
      cases lacking : lacksText target.node with
      | true =>
          have refused := accepted_of_lacksText settings lacking
          simp [Judge.failure?, Judge.visit, judge, refused, Except.map, isBroken,
            Visit.entered?, lacking]
      | false =>
          obtain ⟨fine, judged⟩ := accepted_of_text settings lacking
          simp [Judge.failure?, Judge.visit, judge, judged, Except.map, isBroken,
            Visit.entered?, lacking]

theorem fails_eq (settings : Settings) (surroundings : Surroundings) :
    Judge.fails judge settings surroundings = isBroken := by
  funext event
  rw [Judge.fails, failure?_eq]
  cases isBroken event <;> rfl

theorem wants_of_isBroken {event : Visit} (broken : isBroken event = true) :
    rule.wants event = true ∧ event.entered? = some event.target.node := by
  obtain ⟨phase, target, ancestors⟩ := event
  cases phase with
  | exit => cases broken
  | enter =>
      have literal : target.node.kind = .stringLiteral := by
        simp only [isBroken, Visit.entered?, Option.any_some, lacksText, Bool.and_eq_true,
          decide_eq_true_eq] at broken
        exact broken.1
      exact ⟨by simp [Rule.wants, rule, literal], rfl⟩

theorem found_eq (settings : Settings) (surroundings : Surroundings) (event : Visit) :
    (if rule.wants event then Judge.found judge settings surroundings event else []) =
      ((event.entered?.filter (isFlagged settings)).map (finding settings)).toList := by
  obtain ⟨phase, target, ancestors⟩ := event
  cases phase with
  | exit => split <;> rfl
  | enter =>
      split
      · rw [Judge.found, Judge.visit, judge, Visit.entered?]
        cases judged : accepted settings target.node with
        | error cause => simp [Option.filter, isFlagged, judged, Except.map, Except.toOption]
        | ok fine =>
            cases fine <;> simp [Option.filter, isFlagged, judged, Except.map, Except.toOption]
      · rename_i unwanted
        have other := accepted_of_other settings fun shown => unwanted (decide_eq_true shown)
        simp [Visit.entered?, Option.filter, isFlagged, other, Except.toOption]

theorem flatMap_found (settings : Settings) (surroundings : Surroundings) (events : List Visit) :
    (events.filter rule.wants).flatMap (Judge.found judge settings surroundings) =
      ((events.filterMap Visit.entered?).filter (isFlagged settings)).map (finding settings) := by
  induction events with
  | nil => rfl
  | cons event rest ih =>
      have first := found_eq settings surroundings event
      have listed : (event :: rest).filterMap Visit.entered? =
          event.entered?.toList ++ rest.filterMap Visit.entered? := by
        cases entered : event.entered? <;> simp [entered]
      have filtered : event.entered?.toList.filter (isFlagged settings) =
          (event.entered?.filter (isFlagged settings)).toList := by
        cases event.entered? with
        | none => rfl
        | some node => cases flagged : isFlagged settings node <;> simp [Option.filter, flagged]
      rw [listed, List.filter_append, List.map_append, filtered, ← Option.toList_map, ← first, ← ih,
        List.filter_cons]
      split <;> simp

/-! ## Up to the first node without a text -/

theorem wants_and_isBroken (event : Visit) :
    (rule.wants event && isBroken event) = isBroken event := by
  cases broken : isBroken event with
  | true => simp [(wants_of_isBroken broken).1]
  | false => simp

theorem takeWhile_filter_wants (events : List Visit) :
    (events.filter rule.wants).takeWhile (fun event => !isBroken event) =
      (events.takeWhile fun event => !isBroken event).filter rule.wants := by
  rw [List.takeWhile_filter]
  congr 2
  funext event
  rw [← wants_and_isBroken event]
  cases rule.wants event <;> rfl

theorem find?_filter_wants (events : List Visit) :
    (events.filter rule.wants).find? isBroken = events.find? isBroken := by
  rw [List.find?_filter]
  congr 1
  funext event
  simp only [Bool.decide_and, Bool.decide_eq_true]
  exact wants_and_isBroken event

theorem takeWhile_nodes (root : Node) :
    root.nodes.takeWhile (fun node => !lacksText node) =
      ((visits [] 0 root).takeWhile fun event => !isBroken event).filterMap Visit.entered? := by
  rw [root.nodes_eq_filterMap_visits, List.takeWhile_filterMap]
  congr 2
  funext event
  rw [isBroken]
  cases event.entered? <;> rfl

theorem find?_nodes (root : Node) :
    root.nodes.find? lacksText = ((visits [] 0 root).find? isBroken).map (·.target.node) := by
  rw [root.nodes_eq_filterMap_visits, List.find?_filterMap]
  change ((visits [] 0 root).find? isBroken).bind Visit.entered? = _
  cases broken : (visits [] 0 root).find? isBroken with
  | none => rfl
  | some event => exact (wants_of_isBroken (List.find?_some broken)).2

/-- What the rule reports is determined by the nodes before the first without a text. -/
theorem filter_ofRule_findings {registry : Registry} (reachable : registry.Reachable)
    (member : ⟨"quote-style", none, rule⟩ ∈ registry.rules) {policy : Policy}
    {binding : RuleBinding} (enabled : policy.activeBinding? "quote-style" = some binding)
    {settings : Settings} (created : rule.create binding.options = .ok settings) (root : Node) :
    (registry.findings policy root).filter (Diagnostic.ofRule "quote-style") =
      (((root.nodes.takeWhile fun node => !lacksText node).filter (isFlagged settings)).map
          (finding settings)).map (diagnosticOf "quote-style" binding.severity) ++
        ((root.nodes.find? lacksText).map fun node =>
          failureDiagnostic "quote-style" failure node.startPosition).toList := by
  let surroundings : Surroundings := ⟨"quote-style", policy.globals, policy.capabilities⟩
  have failed : (((visits [] 0 root).find? isBroken).bind fun event =>
        (Judge.failure? judge settings surroundings event).map fun cause =>
          failureDiagnostic "quote-style" cause event.target.node.startPosition) =
      (root.nodes.find? lacksText).map fun node =>
        failureDiagnostic "quote-style" failure node.startPosition := by
    rw [find?_nodes]
    cases broken : (visits [] 0 root).find? isBroken with
    | none => rfl
    | some event => simp [failure?_eq, List.find?_some broken]
  have contribution :=
    Registry.filter_ofRule_findings_of_judgesBy reachable member enabled judgesBy created root
  refine contribution.trans ?_
  change ((((visits [] 0 root).filter rule.wants).takeWhile fun event =>
        !Judge.fails judge settings surroundings event).flatMap
          (Judge.found judge settings surroundings)).map
            (diagnosticOf "quote-style" binding.severity) ++
      ((((visits [] 0 root).filter rule.wants).find?
        (Judge.fails judge settings surroundings)).bind fun event =>
          (Judge.failure? judge settings surroundings event).map fun cause =>
            failureDiagnostic "quote-style" cause event.target.node.startPosition).toList = _
  rw [fails_eq, takeWhile_filter_wants, flatMap_found, ← takeWhile_nodes, find?_filter_wants,
    failed]

theorem filter_isInternal_reports (severity : Severity) (settings : Settings)
    (flagged : List Node) (broken : Option Node) :
    let found := (flagged.map (finding settings)).map (diagnosticOf "quote-style" severity)
    let failed := (broken.map fun node =>
      failureDiagnostic "quote-style" failure node.startPosition).toList
    (found ++ failed).filter Diagnostic.isInternal = failed ∧
      (found ++ failed).filter (fun diagnostic => !diagnostic.isInternal) = found := by
  intro found failed
  have ordinary : ∀ diagnostic ∈ found, diagnostic.isInternal = false := by
    simp [found, Diagnostic.isInternal, diagnosticOf, finding]
  have internal : ∀ diagnostic ∈ failed, diagnostic.isInternal = true := by
    simp [failed, Diagnostic.isInternal, failureDiagnostic]
  rw [List.filter_append, List.filter_append]
  constructor
  · rw [List.filter_eq_nil_iff.mpr fun diagnostic member => by simp [ordinary diagnostic member],
      List.filter_eq_self.mpr internal, List.nil_append]
  · rw [List.filter_eq_self.mpr fun diagnostic member => by simp [ordinary diagnostic member],
      List.filter_eq_nil_iff.mpr fun diagnostic member => by simp [internal diagnostic member],
      List.append_nil]

end ScriptLint.Rules.QuoteStyle
