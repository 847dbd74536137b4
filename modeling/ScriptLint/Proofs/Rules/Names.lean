import ScriptLint.Proofs.Engine.Listening
import ScriptLint.Proofs.Lexical.Binders
import ScriptLint.Proofs.Rules.BuiltIn
import ScriptLint.Syntax.Layout

/-!
# Rules on names

The rules on names listen with a tracker and conclude from what it has found.  So what
they report can be said in terms of the binders and the uses in a tree: the rules on
undeclared names and on assignments to globals divide the uses of names that are
declared in no scope around them, and the rule on constant variables looks at the
binders of `let`.
-/

namespace ScriptLint

open Evaluation Lexical

/-! ## Rules with a tracker -/

/-- A rule that listens with a tracker concludes from what the tracker finds in the tree. -/
theorem Registry.filter_ofRule_evaluate_of_tracker {registry : Registry}
    (reachable : registry.Reachable) {policy : Policy} {registered : RegisteredRule}
    (member : registered ∈ registry.rules) {binding : RuleBinding}
    (enabled : policy.activeBinding? registered.id = some binding)
    {held : Tracker → registered.rule.State} {conclude : Tracker → Surroundings → List Finding}
    (listens : registered.rule.Listens held Tracker.shown conclude)
    (created : registered.rule.create binding.options = .ok (held .start))
    (enough : Lexical.interests ⊆ registered.rule.interests) (tree : SyntaxTree) :
    let surroundings : Surroundings := ⟨registered.id, policy.globals, policy.capabilities⟩
    (registry.evaluate policy tree).diagnostics.filter (Diagnostic.ofRule registered.id) =
      (FileReport.ofDiagnostics tree.path
        ((conclude (Tracker.ofTree surroundings tree.root) surroundings).map
          (diagnosticOf registered.id binding.severity))).diagnostics := by
  intro surroundings
  have found : Rule.Listens.notesOn registered.rule Tracker.shown .start surroundings tree.root =
      Tracker.ofTree surroundings tree.root := by
    rw [Rule.Listens.notesOn, ← Tracker.walkTree_of_interests enough, walkTree_eq_foldl,
      List.foldl_filter]
    simp [Rule.wants]
  rw [← found]
  exact filter_ofRule_evaluate_of_listens reachable member enabled listens created tree

namespace Rules

/-! ## Undeclared names and assignments to globals -/

theorem NoUndef.listens : rule.Listens (fun tracker : Tracker => tracker) Tracker.shown
    fun tracker surroundings => findings tracker surroundings.globals where
  respond _ event _ := by
    obtain ⟨phase, target, ancestors⟩ := event
    cases phase <;> rfl
  finish _ _ := rfl

theorem NoGlobalAssign.listens (exceptions : NameSet) :
    rule.Listens (State.mk exceptions) Tracker.shown
      fun tracker surroundings => findings ⟨exceptions, tracker⟩ surroundings.globals where
  respond _ event _ := by
    obtain ⟨phase, target, ancestors⟩ := event
    cases phase <;> rfl
  finish _ _ := rfl

theorem mem_occurrences_iff {root : Node} {occurrence : Occurrence} :
    occurrence ∈ occurrences root ↔
      occurrence.place ∈ places root ∧ occurrence.place.use? = some occurrence.use := by
  rw [occurrences, List.mem_filterMap]
  constructor
  · rintro ⟨place, inTree, uses⟩
    obtain ⟨use, isUse, rfl⟩ := Option.map_eq_some_iff.mp uses
    exact ⟨inTree, isUse⟩
  · rintro ⟨inTree, isUse⟩
    exact ⟨occurrence.place, inTree, by rw [isUse, Option.map_some]⟩

theorem map_finding_unresolved (surroundings : Surroundings) (root : Node)
    (flagged : Reference → Bool) (code : String) (message : String → String) :
    ((Tracker.ofTree surroundings root).unresolved.filter flagged).map (fun use =>
        (⟨code, message use.name, use.position⟩ : Finding)) =
      (((occurrences root).filter (Occurrence.isFree root)).filter fun occurrence =>
        flagged occurrence.use).map fun occurrence =>
          ⟨code, message occurrence.use.name, occurrence.place.node.startPosition⟩ := by
  rw [Tracker.unresolved_ofTree, List.filter_map, List.map_map]
  apply List.map_congr_left
  intro occurrence member
  have inTree := (List.mem_filter.mp (List.mem_filter.mp member).1).1
  have position := (use?_eq_some_iff.mp (mem_occurrences_iff.mp inTree).2).2.2.2.2
  simp [position]

section Reports

variable {registry : Registry} {policy : Policy} {id : String} {plugin : Option String}
  {binding : RuleBinding}

theorem NoUndef.filter_ofRule_evaluate (reachable : registry.Reachable)
    (member : ⟨id, plugin, rule⟩ ∈ registry.rules)
    (enabled : policy.activeBinding? id = some binding)
    (valid : rule.validate binding.options = .ok ()) (tree : SyntaxTree) :
    (registry.evaluate policy tree).diagnostics.filter (Diagnostic.ofRule id) =
      (FileReport.ofDiagnostics tree.path
        ((((occurrences tree.root).filter (Occurrence.isFree tree.root)).filter fun occurrence =>
          !policy.globals.contains occurrence.use.name).map fun occurrence =>
            { ruleId := id, code := "undefined_identifier", severity := binding.severity
              message := s!"'{occurrence.use.name}' is not defined."
              position := occurrence.place.node.startPosition
              fingerprint := none })).diagnostics := by
  have created : rule.create binding.options = .ok Tracker.start :=
    Rule.created_eq_ok_iff.mpr ⟨(), valid, rfl⟩
  refine (Registry.filter_ofRule_evaluate_of_tracker reachable member enabled listens created
    (fun _ shown => shown) tree).trans ?_
  dsimp only
  rw [findings, map_finding_unresolved _ _ _ _ fun name => s!"'{name}' is not defined.",
    List.map_map]
  rfl

theorem NoGlobalAssign.filter_ofRule_evaluate (reachable : registry.Reachable)
    (member : ⟨id, plugin, rule⟩ ∈ registry.rules)
    (enabled : policy.activeBinding? id = some binding) {exceptions : NameSet}
    (valid : settings binding.options = .ok exceptions) (tree : SyntaxTree) :
    (registry.evaluate policy tree).diagnostics.filter (Diagnostic.ofRule id) =
      (FileReport.ofDiagnostics tree.path
        ((((occurrences tree.root).filter (Occurrence.isFree tree.root)).filter fun occurrence =>
          isFlagged exceptions policy.globals occurrence.use).map fun occurrence =>
            { ruleId := id, code := "readonly_global", severity := binding.severity
              message :=
                s!"Read-only global '{occurrence.use.name}' should not be modified."
              position := occurrence.place.node.startPosition
              fingerprint := none })).diagnostics := by
  have created : rule.create binding.options = .ok (State.mk exceptions .start) :=
    Rule.created_eq_ok_iff.mpr ⟨exceptions, valid, rfl⟩
  refine (Registry.filter_ofRule_evaluate_of_tracker reachable member enabled
    (listens exceptions) created (fun _ shown => shown) tree).trans ?_
  dsimp only
  rw [findings, map_finding_unresolved _ _ _ _ fun name =>
    s!"Read-only global '{name}' should not be modified.", List.map_map]
  rfl

end Reports

theorem isFree_eq_isNone_referent? {root : Node} {occurrence : Occurrence}
    (member : occurrence ∈ occurrences root) :
    occurrence.isFree root = (occurrence.place.referent? root occurrence.use.name).isNone := by
  rw [← isNone_target?, target?_eq (mem_occurrences_iff.mp member).2, Option.isNone_map]

/--
The two rules side by side.  Of the uses of names that are declared, before or after, in
no scope around them, one rule reports those that are no globals and the other the
assignments to globals that may only be read.  No identifier is reported by both, and none
that refers to a binder by either.
-/
theorem free_occurrences_are_divided {registry : Registry} (reachable : registry.Reachable)
    {policy : Policy} {undefId assignId : String} {undefPlugin assignPlugin : Option String}
    (undefMember : ⟨undefId, undefPlugin, NoUndef.rule⟩ ∈ registry.rules)
    (assignMember : ⟨assignId, assignPlugin, NoGlobalAssign.rule⟩ ∈ registry.rules)
    {undefBinding assignBinding : RuleBinding}
    (undefEnabled : policy.activeBinding? undefId = some undefBinding)
    (assignEnabled : policy.activeBinding? assignId = some assignBinding)
    (undefValid : NoUndef.rule.validate undefBinding.options = .ok ())
    (assignValid : NoGlobalAssign.rule.validate assignBinding.options = .ok ())
    (tree : SyntaxTree) :
    ∃ exceptions, NoGlobalAssign.settings assignBinding.options = .ok exceptions ∧
      let report := registry.evaluate policy tree
      let free := (occurrences tree.root).filter (Occurrence.isFree tree.root)
      let undeclared := free.filter fun occurrence =>
        !policy.globals.contains occurrence.use.name
      let assigned := free.filter fun occurrence =>
        occurrence.use.role = .assignment && !exceptions.contains occurrence.use.name &&
          policy.globals.get? occurrence.use.name = some .readOnly
      report.diagnostics.filter (Diagnostic.ofRule undefId) =
        (FileReport.ofDiagnostics tree.path (undeclared.map fun occurrence =>
          { ruleId := undefId, code := "undefined_identifier", severity := undefBinding.severity
            message := s!"'{occurrence.use.name}' is not defined."
            position := occurrence.place.node.startPosition, fingerprint := none })).diagnostics ∧
      report.diagnostics.filter (Diagnostic.ofRule assignId) =
        (FileReport.ofDiagnostics tree.path (assigned.map fun occurrence =>
          { ruleId := assignId, code := "readonly_global", severity := assignBinding.severity
            message := s!"Read-only global '{occurrence.use.name}' should not be modified."
            position := occurrence.place.node.startPosition, fingerprint := none })).diagnostics ∧
      (∀ first ∈ undeclared, ∀ second ∈ assigned,
        first.place.address ≠ second.place.address) ∧
      ∀ occurrence ∈ occurrences tree.root, ∀ binder,
        occurrence.place.referent? tree.root occurrence.use.name = some binder →
          occurrence ∉ undeclared ∧ occurrence ∉ assigned := by
  obtain ⟨exceptions, isSettings⟩ := Rule.validated_eq_ok_iff.mp assignValid
  refine ⟨exceptions, isSettings,
    NoUndef.filter_ofRule_evaluate reachable undefMember undefEnabled undefValid tree,
    NoGlobalAssign.filter_ofRule_evaluate reachable assignMember assignEnabled isSettings tree,
    ?_, ?_⟩
  · intro first isUndeclared second isAssigned same
    obtain ⟨firstFree, unknown⟩ := List.mem_filter.mp isUndeclared
    obtain ⟨secondFree, flagged⟩ := List.mem_filter.mp isAssigned
    obtain ⟨inFirst, firstUse⟩ := mem_occurrences_iff.mp (List.mem_filter.mp firstFree).1
    obtain ⟨inSecond, secondUse⟩ := mem_occurrences_iff.mp (List.mem_filter.mp secondFree).1
    have samePlace := eq_of_address_eq inFirst inSecond same
    rw [samePlace, secondUse, Option.some.injEq] at firstUse
    simp only [Bool.and_eq_true, decide_eq_true_eq] at flagged
    simp [Dictionary.contains, ← firstUse, flagged.2] at unknown
  · intro occurrence member binder refers
    have bound : occurrence.isFree tree.root = false := by
      rw [isFree_eq_isNone_referent? member, refers]
      rfl
    constructor <;>
    · intro reported
      have free := (List.mem_filter.mp (List.mem_filter.mp reported).1).2
      rw [bound] at free
      cases free

/-- Inside the block the name is a variable; outside it is a global that may only be read. -/
theorem free_occurrences_around_block :
    let policy : Policy :=
      { environments := ∅, capabilities := .default
        globals := (∅ : Globals).insert "limit" .readOnly
        rules := ((∅ : Dictionary RuleBinding).insert "no-undef" ⟨.advisory, []⟩).insert
          "no-global-assign" ⟨.blocking, []⟩ }
    let assign (name : String) : Node :=
      Build.statement .expressionStatement
        [Build.assignment (Build.identifier name .assignment) (Build.literal .numberLiteral "1")]
        true
    let tree : SyntaxTree := ⟨⟨"a.js"⟩, Layout.program
      [assign "limit", assign "other",
        Build.block [assign "limit", Build.singleVariable .let "limit" none]]⟩
    let report := (Registry.builtIn .standard).evaluate policy tree
    report.diagnostics.filter (Diagnostic.ofRule "no-undef") =
        [Diagnostic.stamped tree.path ⟨"no-undef", "undefined_identifier", .advisory,
          "'other' is not defined.", ⟨2, 3, ⟨1002, 1007⟩⟩, none⟩] ∧
      report.diagnostics.filter (Diagnostic.ofRule "no-global-assign") =
        [Diagnostic.stamped tree.path ⟨"no-global-assign", "readonly_global", .blocking,
          "Read-only global 'limit' should not be modified.", ⟨1, 3, ⟨2, 7⟩⟩, none⟩] := by
  intro policy assign tree report
  have undefEnabled : policy.activeBinding? "no-undef" = some ⟨.advisory, []⟩ := rfl
  have assignEnabled : policy.activeBinding? "no-global-assign" = some ⟨.blocking, []⟩ := rfl
  have undefMember : NoUndef.rule ∈ builtIn .standard := by simp [builtIn]
  have assignMember : NoGlobalAssign.rule ∈ builtIn .standard := by simp [builtIn]
  obtain ⟨exceptions, isSettings, undeclared, assigned, -, -⟩ :=
    free_occurrences_are_divided .builtIn (Registry.of_mem_rules_builtIn undefMember)
      (Registry.of_mem_rules_builtIn assignMember) undefEnabled assignEnabled rfl rfl tree
  cases isSettings
  exact ⟨undeclared.trans (FileReport.ofDiagnostics_toList tree.path (some _)),
    assigned.trans (FileReport.ofDiagnostics_toList tree.path (some _))⟩

/-! ## Constant variables -/

namespace PreferConst

theorem listens : rule.Listens (fun tracker : Tracker => tracker) Tracker.shown
    fun tracker surroundings => findings tracker surroundings.capabilities.syntaxVersion where
  respond _ event _ := by
    obtain ⟨phase, target, ancestors⟩ := event
    cases phase <;> rfl
  finish _ _ := rfl

def isInitializedLet (binder : Binder) : Bool :=
  binder.place.parent?.any fun declarator =>
    declarator.kind = .variableDeclarator ∧ declarator.keyword = .let ∧
      1 < declarator.node.children.length

theorem isInitializedLet_eq {root : Node} {binder : Binder} (member : binder ∈ binders root) :
    isInitializedLet binder =
      (binder.binding.kind = .variable .let && binder.binding.initialized) := by
  have declares := (binding?_of_mem_declaring (List.mem_filter.mp member).1).2
  obtain ⟨-, isKind, -, -, isInitialized⟩ := binding?_eq_some_iff.mp declares
  rw [isInitialized, isInitializedLet, Place.isInitialized]
  rw [Place.bindingKind?] at isKind
  cases around : binder.place.parent? with
  | none => simp [around] at isKind
  | some parent =>
      rw [around, Option.bind_some] at isKind
      cases kind : parent.kind <;> simp [kind] at isKind ⊢
      all_goals simp [← isKind]

theorem isFlagged_usage {root : Node} {binder : Binder} (member : binder ∈ binders root) :
    isFlagged (binder.usage root) =
      (isInitializedLet binder && !binder.isUsed root .assignment) := by
  rw [isFlagged, Binder.isWritten_usage member, isInitializedLet_eq member]
  rfl

/--
From the edition on that has block scopes, one report on each variable that is declared
first by a `let` with a value and that no assignment refers to, where it is declared.
-/
theorem reports_unwritten_lets {registry : Registry} (reachable : registry.Reachable)
    {policy : Policy} {id : String} {plugin : Option String}
    (member : ⟨id, plugin, rule⟩ ∈ registry.rules) {binding : RuleBinding}
    (enabled : policy.activeBinding? id = some binding) (noOptions : binding.options = [])
    (tree : SyntaxTree) :
    let reported :=
      (registry.evaluate policy tree).diagnostics.filter (Diagnostic.ofRule id)
    (policy.capabilities.syntaxVersion.year < 2015 → reported = []) ∧
      (2015 ≤ policy.capabilities.syntaxVersion.year →
        reported = (FileReport.ofDiagnostics tree.path
          (((binders tree.root).filter fun binder =>
            isInitializedLet binder && !binder.isUsed tree.root .assignment).map fun binder =>
              { ruleId := id, code := "never_reassigned", severity := binding.severity
                message := s!"'{binder.binding.name}' is never reassigned. Use 'const' instead."
                position := binder.place.node.startPosition
                fingerprint := none })).diagnostics) := by
  intro reported
  have created : rule.create binding.options = .ok Tracker.start := by
    rw [noOptions]
    rfl
  have contribution : reported = _ := Registry.filter_ofRule_evaluate_of_tracker reachable member
    enabled listens created (fun _ shown => shown) tree
  dsimp only at contribution
  rw [contribution, findings]
  constructor
  · intro old
    rw [if_neg (by simp [SyntaxVersion.supportsBlockBindings, old])]
    simp [FileReport.ofDiagnostics]
  · intro recent
    have flagged : (binders tree.root).filter (isFlagged ∘ Binder.usage tree.root) = _ :=
      List.filter_congr fun binder isBinder => isFlagged_usage isBinder
    rw [if_pos (by simp [SyntaxVersion.supportsBlockBindings, recent]), Tracker.usages_ofTree,
      List.filter_map, List.map_map, List.map_map, flagged]
    congr 2
    apply List.map_congr_left
    intro binder isReported
    have position := position_of_mem_binders (List.mem_filter.mp isReported).1
    simp [diagnosticOf, Binder.usage, position]

/-- An assignment before the variable and inside a function counts, one to a namesake does not. -/
theorem reports_unwritten_let_beside_namesake :
    let policy : Policy :=
      { environments := ∅, capabilities := ⟨⟨2015⟩, .script⟩, globals := ∅
        rules := (∅ : Dictionary RuleBinding).insert "prefer-const" ⟨.advisory, []⟩ }
    let one : Node := Build.literal .numberLiteral "1"
    let assign (name : String) : Node := Build.statement .expressionStatement
      [Build.assignment (Build.identifier name .assignment) one] true
    let tree : SyntaxTree := ⟨⟨"a.js"⟩, Layout.program
      [Build.function "f" [] [assign "count"], Build.singleVariable .let "count" (some one),
        Build.singleVariable .let "total" (some one),
        Build.block [assign "total", Build.singleVariable .let "total" (some one)]]⟩
    ((Registry.builtIn .standard).evaluate policy tree).diagnostics.filter
        (Diagnostic.ofRule "prefer-const") =
      [Diagnostic.stamped tree.path ⟨"prefer-const", "never_reassigned", .advisory,
        "'total' is never reassigned. Use 'const' instead.", ⟨3, 3, ⟨2002, 2007⟩⟩, none⟩] := by
  intro policy one assign tree
  have member : rule ∈ builtIn .standard := by simp [builtIn]
  have enabled : policy.activeBinding? "prefer-const" = some ⟨.advisory, []⟩ := rfl
  have reported := (reports_unwritten_lets .builtIn (Registry.of_mem_rules_builtIn member) enabled
    rfl tree).2 (Nat.le_refl 2015)
  exact reported.trans (FileReport.ofDiagnostics_toList tree.path (some _))

end PreferConst

end Rules

end ScriptLint
