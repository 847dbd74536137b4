import ScriptLint.Proofs.Engine.Contribution
import ScriptLint.Proofs.Lexical.Progress

/-!
# Rules that inspect places

A rule that has no memory and can judge every node says all that it has to say of a node
when it is shown the node.  What it contributes to an evaluation is therefore what it
says of the places of the tree one by one, in pre-order.
-/

namespace ScriptLint

open Evaluation Lexical

def Judge.total {σ : Type} (inspect : σ → Context → Node → List Finding) : Judge σ :=
  fun state context node => .ok (inspect state context node)

namespace Judge

variable {σ : Type} (inspect : σ → Context → Node → List Finding) (state : σ)
  (surroundings : Surroundings)

theorem fails_total (event : Visit) : fails (total inspect) state surroundings event = false := by
  obtain ⟨phase, target, ancestors⟩ := event
  cases phase <;> rfl

theorem flatMap_found_total (rule : Rule) (events : List Visit) :
    (events.filter rule.wants).flatMap (found (total inspect) state surroundings) =
      ((entered events).filter fun place => place.kind ∈ rule.interests).flatMap fun place =>
        inspect state (place.context surroundings) place.node := by
  induction events with
  | nil => rfl
  | cons event rest ih =>
      obtain ⟨phase, target, ancestors⟩ := event
      rw [List.filter_cons]
      cases phase with
      | enter =>
          have first : entered (⟨.enter, target, ancestors⟩ :: rest) =
              ⟨target, ancestors⟩ :: entered rest := rfl
          have wanted : rule.wants ⟨.enter, target, ancestors⟩ =
              decide (Place.kind ⟨target, ancestors⟩ ∈ rule.interests) := rfl
          rw [first, List.filter_cons, wanted]
          split
          · rw [List.flatMap_cons, List.flatMap_cons, ih]
            rfl
          · exact ih
      | exit =>
          have first : entered (⟨.exit, target, ancestors⟩ :: rest) = entered rest := rfl
          rw [first, ← ih]
          split <;> rfl

end Judge

theorem flatMap_filter_eq_map_filter {α β : Type} {isShown isFlagged : α → Bool}
    {inspect : α → List β} {find : α → β}
    (shown : ∀ item, isFlagged item = true → isShown item = true)
    (each : ∀ item, isShown item = true →
      inspect item = if isFlagged item then [find item] else []) (items : List α) :
    (items.filter isShown).flatMap inspect = (items.filter isFlagged).map find := by
  induction items with
  | nil => rfl
  | cons item rest ih =>
      rw [List.filter_cons, List.filter_cons]
      by_cases isItem : isShown item = true
      · rw [if_pos isItem, List.flatMap_cons, ih, each item isItem]
        split <;> simp
      · have unflagged : ¬ isFlagged item = true := fun flagged => isItem (shown item flagged)
        rw [if_neg isItem, if_neg unflagged, ih]

/-- A rule that says at most one thing of a place reports the places that it flags. -/
theorem Registry.filter_ofRule_evaluate_of_flags {registry : Registry}
    (reachable : registry.Reachable) {policy : Policy} {registered : RegisteredRule}
    (member : registered ∈ registry.rules) {binding : RuleBinding}
    (enabled : policy.activeBinding? registered.id = some binding)
    {inspect : registered.rule.State → Context → Node → List Finding}
    (judges : registered.rule.JudgesBy (.total inspect)) {state : registered.rule.State}
    (created : registered.rule.create binding.options = .ok state) {isFlagged : Place → Bool}
    {find : Place → Finding}
    (shown : ∀ place, isFlagged place = true → place.kind ∈ registered.rule.interests)
    (each : ∀ place, place.kind ∈ registered.rule.interests →
      inspect state (place.context ⟨registered.id, policy.globals, policy.capabilities⟩)
        place.node = if isFlagged place then [find place] else []) (tree : SyntaxTree) :
    (registry.evaluate policy tree).diagnostics.filter (Diagnostic.ofRule registered.id) =
      (FileReport.ofDiagnostics tree.path (((places tree.root).filter isFlagged).map fun place =>
        diagnosticOf registered.id binding.severity (find place))).diagnostics := by
  have completes := judges.completes created tree.root fun event _ =>
    Judge.fails_total inspect state ⟨registered.id, policy.globals, policy.capabilities⟩ event
  rw [evaluate, Diagnostic.filter_ofRule_ofDiagnostics,
    filter_ofRule_findings_of_completes reachable member enabled completes,
    Judge.flatMap_found_total, entered_walk,
    flatMap_filter_eq_map_filter (fun place flagged => decide_eq_true (shown place flagged))
      fun place isShown => each place (of_decide_eq_true isShown), List.map_map]
  rfl

end ScriptLint
