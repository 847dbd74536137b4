import Mathlib.Data.List.DropRight
import ScriptLint.Proofs.Lexical.Parameters
import ScriptLint.Proofs.Rules.Names

/-!
# The rule on unused variables

The rule reports the binders that nothing reads, less those that its options leave out.
By default it leaves out a parameter if a later parameter of the same function is
read.  For a function with distinct parameter names, what it reports are then the
parameters after the last one that is read.
-/

namespace ScriptLint.Rules.NoUnusedVars

open Evaluation Lexical

variable {engine : PatternEngine}

theorem listens (given : Settings engine) : (rule engine).Listens (State.mk given) Tracker.shown
    fun tracker surroundings =>
      findings ⟨given, tracker⟩ surroundings.capabilities.sourceType where
  respond _ event _ := by
    obtain ⟨phase, target, ancestors⟩ := event
    cases phase <;> rfl
  finish _ _ := rfl

/-! ## Exclusion -/

/-- Whether a binder is a parameter of the function with a scope, after an index, and read. -/
def isReadAfter (root : Node) (scope : Address) (index : Nat) (binder : Binder) : Bool :=
  (binder.parameterIndex? scope).any (index < ·) && binder.isUsed root .reference

def isExcluded (root : Node) (given : Settings engine) (sourceType : SourceType) (binder : Binder) :
    Bool :=
  match binder.binding.kind with
  | .parameter index =>
      ignores given.ignoredParameters binder.binding.name || given.parameterMode = .none ||
        (given.parameterMode = .afterUsed &&
          (binders root).any (isReadAfter root binder.binding.scope index))
  | _ =>
      ignores given.ignoredVariables binder.binding.name ||
        (given.variableMode = .local && sourceType = .script &&
          (firstScope? root).any (·.address = binder.binding.scope))

def isReported (root : Node) (given : Settings engine) (sourceType : SourceType) (binder : Binder) :
    Bool :=
  !binder.isUsed root .reference && !isExcluded root given sourceType binder

theorem isLaterRead_usage {root : Node} {binder : Binder} (member : binder ∈ binders root)
    (scope : Address) (index : Nat) :
    isLaterRead scope index (binder.usage root) = isReadAfter root scope index binder := by
  rw [isLaterRead, Binder.isRead_usage member, isReadAfter, Binder.parameterIndex?,
    Binder.usage]
  cases binder.binding.kind with
  | parameter other =>
      by_cases inScope : binder.binding.scope = scope <;> simp [inScope, Bool.and_comm]
  | _ => simp

theorem any_isLaterRead (root : Node) (scope : Address) (index : Nat) :
    ((binders root).map (Binder.usage root)).any (isLaterRead scope index) =
      (binders root).any (isReadAfter root scope index) := by
  rw [List.any_map, Bool.eq_iff_iff, List.any_eq_true, List.any_eq_true]
  refine exists_congr fun binder => and_congr_right fun member => ?_
  rw [Function.comp_apply, isLaterRead_usage member]

theorem firstScope?_of_program {root : Node} (isProgram : root.kind = .program) :
    firstScope? root = some ⟨⟨root, 0⟩, []⟩ := by
  have isScope : Place.isScope ⟨⟨root, 0⟩, []⟩ = true := by
    simp [Place.isScope, Place.isFunctionScope, Place.kind, Place.node, isProgram]
  rw [firstScope?, places, placesFrom_eq_cons, List.find?_cons, isScope]

theorem skipsVariable_eq (given : Settings engine) (surroundings : Surroundings) (root : Node)
    (sourceType : SourceType) (binding : Binding) :
    skipsVariable given (Tracker.ofTree surroundings root).firstScope sourceType binding =
      (ignores given.ignoredVariables binding.name ||
        (given.variableMode = .local && sourceType = .script &&
          (firstScope? root).any (·.address = binding.scope))) := by
  rw [skipsVariable, Tracker.firstScope_ofTree]
  cases firstScope? root <;>
    simp [SourceType.isModuleScoped, Bool.and_assoc, Bool.and_comm]

theorem isSkipped_eq (given : Settings engine) (surroundings : Surroundings) (root : Node)
    (sourceType : SourceType) (binder : Binder) :
    isSkipped given (.ofTree surroundings root) ((binders root).map (Binder.usage root))
      sourceType binder.binding = isExcluded root given sourceType binder := by
  rw [isSkipped, isExcluded]
  cases binder.binding.kind with
  | parameter index =>
      simp only [skipsParameter, any_isLaterRead]
      cases given.parameterMode <;> simp
  | _ => exact skipsVariable_eq given surroundings root sourceType binder.binding

/-! ## Messages -/

def startsWithValue (binder : Binder) : Bool :=
  binder.place.parent?.any fun declarator =>
    declarator.kind = .variableDeclarator ∧ 1 < declarator.node.children.length

theorem isAssigned_usage {root : Node} {binder : Binder} (member : binder ∈ binders root) :
    isAssigned (binder.usage root) =
      (binder.isUsed root .assignment || startsWithValue binder) := by
  have declares := (binding?_of_mem_declaring (List.mem_filter.mp member).1).2
  obtain ⟨-, isKind, -, -, isInitialized⟩ := binding?_eq_some_iff.mp declares
  rw [isAssigned, Binder.isWritten_usage member, Binder.usage, isInitialized, startsWithValue,
    Place.isInitialized]
  rw [Place.bindingKind?] at isKind
  cases around : binder.place.parent? with
  | none => simp [around] at isKind
  | some parent =>
      rw [around, Option.bind_some] at isKind
      cases kind : parent.kind <;> simp [kind] at isKind ⊢
      all_goals simp [← isKind]

theorem message_usage {root : Node} {binder : Binder} (member : binder ∈ binders root) :
    message (binder.usage root) =
      if binder.isUsed root .assignment || startsWithValue binder
      then s!"'{binder.binding.name}' is assigned a value but never used."
      else s!"'{binder.binding.name}' is defined but never used." := by
  rw [message, isAssigned_usage member]
  rfl

/-! ## Parameters after the last one that is read -/

theorem filter_eq_rtakeWhile {α : Type} (number : α → Nat) (marked : α → Bool) {items : List α}
    (inOrder : items.Pairwise fun first second => number first < number second) :
    (items.filter fun item => !marked item &&
        !items.any fun other => number item < number other && marked other) =
      items.rtakeWhile (!marked ·) := by
  induction items using List.reverseRecOn with
  | nil => rfl
  | append_singleton items last ih =>
      rw [List.pairwise_append] at inOrder
      obtain ⟨earlier, -, before⟩ := inOrder
      rw [List.rtakeWhile_concat, List.filter_append]
      cases isMarked : marked last with
      | true =>
          have others : items.filter (fun item => !marked item && !(items ++ [last]).any
              fun other => number item < number other && marked other) = [] := by
            rw [List.filter_eq_nil_iff]
            intro item member
            simp [isMarked, before item member last List.mem_cons_self]
          rw [others]
          simp [isMarked]
      | false =>
          have others : items.filter (fun item => !marked item && !(items ++ [last]).any
              fun other => number item < number other && marked other) =
              items.rtakeWhile (!marked ·) := by
            rw [← ih earlier]
            simp [isMarked]
          have own : [last].filter (fun item => !marked item && !(items ++ [last]).any
              fun other => number item < number other && marked other) = [last] := by
            rw [List.filter_eq_self]
            intro item isLast
            obtain rfl := List.mem_singleton.mp isLast
            have noneAfter : ∀ other ∈ items, ¬ number item < number other :=
              fun other member => (before other member item List.mem_cons_self).not_gt
            simp only [isMarked, Bool.not_false, Bool.true_and, Bool.not_eq_true',
              List.any_eq_false]
            intro other member
            rcases List.mem_append.mp member with earlier | isLast
            · simp [noneAfter other earlier]
            · simp [List.mem_singleton.mp isLast]
          rw [others, own]
          rfl

theorem isReported_eq {root : Node} {given : Settings engine}
    (afterUsed : given.parameterMode = .afterUsed)
    (noPattern : given.ignoredParameters = none) (sourceType : SourceType) {scope : Address}
    {binder : Binder} {index : Nat} (isIndex : binder.parameterIndex? scope = some index) :
    isReported root given sourceType binder =
      (!binder.isUsed root .reference &&
        !((binders root).filter fun other => (other.parameterIndex? scope).isSome).any fun other =>
          (binder.parameterIndex? scope).getD 0 < (other.parameterIndex? scope).getD 0 &&
            other.isUsed root .reference) := by
  have later : isReadAfter root scope index = fun other =>
      (other.parameterIndex? scope).isSome &&
        (index < (other.parameterIndex? scope).getD 0 && other.isUsed root .reference) := by
    funext other
    rw [isReadAfter]
    cases other.parameterIndex? scope <;> simp
  obtain ⟨kind, inScope⟩ := Binder.parameterIndex?_eq_some_iff.mp isIndex
  rw [isReported, isExcluded, kind, isIndex, List.any_filter]
  simp [afterUsed, noPattern, ignores, inScope, later]

/-! ## Reports -/

theorem findings_eq (given : Settings engine) (surroundings : Surroundings) (root : Node)
    (sourceType : SourceType) :
    findings ⟨given, .ofTree surroundings root⟩ sourceType =
      ((binders root).filter (isReported root given sourceType)).map fun binder =>
        ⟨code binder.binding.kind,
          if binder.isUsed root .assignment || startsWithValue binder
          then s!"'{binder.binding.name}' is assigned a value but never used."
          else s!"'{binder.binding.name}' is defined but never used.",
          binder.place.node.startPosition⟩ := by
  have reported : (binders root).filter ((fun usage : Usage => !usage.isRead &&
      !isSkipped given (.ofTree surroundings root) ((binders root).map (Binder.usage root))
        sourceType usage.binding) ∘ Binder.usage root) =
      (binders root).filter (isReported root given sourceType) := by
    apply List.filter_congr
    intro binder member
    rw [Function.comp_apply, Binder.isRead_usage member, Binder.usage, isSkipped_eq]
    rfl
  rw [findings, Tracker.usages_ofTree]
  dsimp only
  rw [List.filter_map, List.map_map, reported]
  apply List.map_congr_left
  intro binder member
  have isBinder := (List.mem_filter.mp member).1
  rw [Function.comp_apply, message_usage isBinder, ← position_of_mem_binders isBinder]
  rfl

/--
One report on each binder that no identifier in the role of a reference refers to and
that is not left out, where it is declared.  Among the parameters of a function that has
distinct ones, those after the last one that is read are reported if no pattern
leaves any of them out.
-/
theorem reports_unread_binders {registry : Registry} (reachable : registry.Reachable)
    {policy : Policy} {id : String} {plugin : Option String}
    (member : ⟨id, plugin, rule engine⟩ ∈ registry.rules) {binding : RuleBinding}
    (enabled : policy.activeBinding? id = some binding)
    (valid : (rule engine).validate binding.options = .ok ()) (tree : SyntaxTree) :
    ∃ given, settings engine binding.options = .ok given ∧
      let reported := (binders tree.root).filter
        (isReported tree.root given policy.capabilities.sourceType)
      (registry.evaluate policy tree).diagnostics.filter (Diagnostic.ofRule id) =
        (FileReport.ofDiagnostics tree.path (reported.map fun binder =>
          { ruleId := id, code := code binder.binding.kind, severity := binding.severity
            message :=
              if binder.isUsed tree.root .assignment || startsWithValue binder
              then s!"'{binder.binding.name}' is assigned a value but never used."
              else s!"'{binder.binding.name}' is defined but never used."
            position := binder.place.node.startPosition, fingerprint := none })).diagnostics ∧
      (tree.root.kind = .program → firstScope? tree.root = some ⟨⟨tree.root, 0⟩, []⟩) ∧
      ∀ function ∈ places tree.root, function.isLaidOut = true →
        (function.parameters.map (·.node.name?)).Nodup →
        given.parameterMode = .afterUsed → given.ignoredParameters = none →
        let isOwn (binder : Binder) := (binder.parameterIndex? function.address).isSome
        let own := (binders tree.root).filter isOwn
        own.map (·.place) = function.parameters ∧
          reported.filter isOwn = own.rtakeWhile fun binder =>
            !binder.isUsed tree.root .reference := by
  obtain ⟨given, isSettings⟩ := Rule.validated_eq_ok_iff.mp valid
  have created : (rule engine).create binding.options = .ok (State.mk given .start) :=
    Rule.created_eq_ok_iff.mpr ⟨given, isSettings, rfl⟩
  refine ⟨given, isSettings, ?_, ?_, ?_⟩
  · refine (Registry.filter_ofRule_evaluate_of_tracker reachable member enabled (listens given)
      created (fun _ shown => shown) tree).trans ?_
    dsimp only
    rw [findings_eq, List.map_map]
    rfl
  · exact firstScope?_of_program
  · intro function inTree laidOut distinct afterUsed noPattern isOwn own
    obtain ⟨areParameters, inOrder⟩ := parameters_are_binders inTree laidOut distinct
    refine ⟨areParameters, (List.filter_comm _ _ _).trans ?_⟩
    rw [← filter_eq_rtakeWhile _ _ inOrder]
    apply List.filter_congr
    intro binder isOne
    obtain ⟨index, isIndex⟩ := Option.isSome_iff_exists.mp (List.mem_filter.mp isOne).2
    exact isReported_eq afterUsed noPattern _ isIndex

/--
The parameter before the one that is read is left out, the one after it is not.  A pattern leaves
out a variable.
-/
theorem reports_parameter_after_read :
    let options : List Value := [.object [("varsIgnorePattern", .string "^x")]]
    let policy : Policy :=
      { environments := ∅, capabilities := .default, globals := ∅
        rules := (∅ : Dictionary RuleBinding).insert "no-unused-vars" ⟨.advisory, options⟩ }
    let handler : Node := Build.function "handler" ["event", "context", "extra"]
      [Build.statement .returnStatement [Build.identifier "context" .reference] true]
    let use : Node := Build.statement .expressionStatement
      [Build.call (Build.identifier "handler" .reference) []] true
    let spare : Node := Build.singleVariable .let "x" none
    let tree : SyntaxTree := ⟨⟨"a.js"⟩, Layout.program [handler, use, spare]⟩
    let function : Place := ⟨⟨(Layout.node 1 1 handler).1, 0⟩, [⟨tree.root, 0⟩]⟩
    ((Registry.builtIn .standard).evaluate policy tree).diagnostics.filter
        (Diagnostic.ofRule "no-unused-vars") =
      [Diagnostic.stamped tree.path ⟨"no-unused-vars", "unused_parameter", .advisory,
        "'extra' is defined but never used.", ⟨1, 29, ⟨28, 33⟩⟩, none⟩] ∧
      ∃ given : Settings .standard, settings .standard options = .ok given ∧
        given.ignoredVariables.isSome = true ∧
        (((binders tree.root).filter (isReported tree.root given .script)).filter fun binder =>
          (binder.parameterIndex? function.address).isSome).map (·.place) =
            function.parameters.drop 2 := by
  intro options policy handler use spare tree function
  have member : rule .standard ∈ builtIn .standard := by simp [builtIn]
  have enabled : policy.activeBinding? "no-unused-vars" = some ⟨.advisory, options⟩ := rfl
  obtain ⟨given, isSettings, reported, -, parameters⟩ := reports_unread_binders .builtIn
    (Registry.of_mem_rules_builtIn member) enabled rfl tree
  cases isSettings
  have inTree : function ∈ places tree.root := .tail _ (.head _)
  have distinct : (function.parameters.map (·.node.name?)).Nodup := by decide
  obtain ⟨-, lastOnes⟩ := parameters function inTree rfl distinct rfl rfl
  refine ⟨reported.trans (FileReport.ofDiagnostics_toList tree.path (some _)), _, rfl, rfl, ?_⟩
  refine (congrArg (List.map (·.place)) lastOnes).trans ?_
  rfl

end ScriptLint.Rules.NoUnusedVars
