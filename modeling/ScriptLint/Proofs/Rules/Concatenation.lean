import ScriptLint.Proofs.Lexical.Nesting
import ScriptLint.Proofs.Rules.BuiltIn
import ScriptLint.Proofs.Rules.Inspection

/-!
# The rule on the concatenation of strings

A chain of concatenations is reported once, at its outermost concatenation, and for its
operands alone.  So the operands of a chain can be bracketed in another way: nothing that
is reported in the tree changes, neither of the chain, nor of what is around it or in
its operands.
-/

namespace ScriptLint.Rules.PreferTemplate

open Evaluation Lexical

/-! ## Operands -/

theorem operandsAll_eq_flatMap (nodes : List Node) :
    operandsAll nodes = nodes.flatMap operands := by
  induction nodes with
  | nil => rfl
  | cons node rest ih => rw [operandsAll, List.flatMap_cons, ih]

theorem operands_eq (node : Node) :
    operands node =
      if isConcatenation node then node.children.flatMap operands else [node] := by
  obtain ⟨kind, location, span, attributes, children⟩ := node
  rw [operands, ← operandsAll_eq_flatMap]

theorem operands_of_isConcatenation {node : Node} (isChain : isConcatenation node = true) :
    operands node = node.children.flatMap operands := by
  rw [operands_eq, if_pos isChain]

def isLinked (depth : Nat) (enclosing : List Place) : Bool :=
  enclosing.all fun around =>
    around.ancestors.length < depth || isConcatenation around.node

def isOperand (depth : Nat) (place : Place) : Bool :=
  !isConcatenation place.node && isLinked depth place.enclosing

/-- The places in a chain that are no concatenations, with nothing else around them in it. -/
def operandPlaces (chain : Place) : List Place :=
  chain.inside.filter (isOperand chain.ancestors.length)

theorem filter_isOperand_inside {depth : Nat} {place : Place}
    (plain : isConcatenation place.node = false) (deep : depth ≤ place.ancestors.length) :
    place.inside.filter (isOperand depth) = [] := by
  rw [List.filter_eq_nil_iff]
  intro other inside linked
  have around := mem_enclosing_of_mem_inside inside
  have allLinked := List.all_eq_true.mp (Bool.and_eq_true_iff.mp linked).2 place around
  simp [plain, Nat.not_lt.mpr deep] at allLinked

mutual

theorem map_node_filter_isOperand {depth : Nat} {ancestors : List Located}
    (linked : isLinked depth (placesOf ancestors) = true) (deep : depth ≤ ancestors.length)
    (index : Nat) (node : Node) :
    ((placesFrom ancestors index node).filter (isOperand depth)).map Place.node =
      operands node := by
  obtain ⟨kind, location, span, attributes, children⟩ := node
  rw [operands]
  by_cases isChain : isConcatenation ⟨kind, location, span, attributes, children⟩
  · have below : isLinked depth
        (placesOf (⟨⟨kind, location, span, attributes, children⟩, index⟩ :: ancestors)) = true := by
      rw [isLinked, placesOf, List.all_cons]
      exact Bool.and_eq_true_iff.mpr ⟨by simp [Place.node, isChain], linked⟩
    rw [if_pos isChain, placesFrom,
      List.filter_cons_of_neg (by simp [isOperand, Place.node, isChain])]
    exact map_node_filter_isOperand_all below (Nat.le_succ_of_le deep) 0 children
  · -- The node is an operand itself, and what is inside it counts for nothing.
    let place : Place := ⟨⟨⟨kind, location, span, attributes, children⟩, index⟩, ancestors⟩
    have plain : isConcatenation place.node = false := Bool.eq_false_iff.mpr isChain
    have isFirst : isOperand depth place = true :=
      Bool.and_eq_true_iff.mpr ⟨by rw [plain]; rfl, linked⟩
    rw [if_neg isChain, placesFrom_eq_cons, List.filter_cons_of_pos isFirst,
      filter_isOperand_inside plain deep]
    rfl

theorem map_node_filter_isOperand_all {depth : Nat} {ancestors : List Located}
    (linked : isLinked depth (placesOf ancestors) = true) (deep : depth ≤ ancestors.length)
    (index : Nat) (children : List Node) :
    ((placesFromAll ancestors index children).filter (isOperand depth)).map Place.node =
      operandsAll children := by
  cases children with
  | nil => rfl
  | cons child rest =>
      rw [placesFromAll, List.filter_append, List.map_append, operandsAll,
        map_node_filter_isOperand linked deep index child,
        map_node_filter_isOperand_all linked deep (index + 1) rest]

end

theorem map_node_operandPlaces {chain : Place} (isChain : isConcatenation chain.node = true) :
    (operandPlaces chain).map Place.node = operands chain.node := by
  rw [operandPlaces, Place.inside, operands_of_isConcatenation isChain, ← operandsAll_eq_flatMap]
  refine map_node_filter_isOperand_all ?_ (Nat.le_succ _) 0 chain.node.children
  rw [isLinked, List.all_eq_true]
  intro around encloses
  rw [placesOf, List.mem_cons] at encloses
  rcases encloses with rfl | farther
  · simpa using isChain
  · have shallow : around.ancestors.length < chain.ancestors.length :=
      length_ancestors_of_mem_enclosing farther
    simp [shallow]

/-! ## Chains that are reported -/

def isReported (place : Place) : Bool :=
  isConcatenation place.node && !place.parent?.any (isConcatenation ·.node) &&
    (operandPlaces place).any (·.kind = .stringLiteral) &&
    (operandPlaces place).any fun operand =>
      operand.kind ≠ .stringLiteral && operand.kind ≠ .templateLiteral

def isMixedChain (node : Node) : Bool := isConcatenation node && isMixed (operands node)

theorem isReported_eq (place : Place) :
    isReported place =
      (isMixedChain place.node && !place.parent?.any (isConcatenation ·.node)) := by
  rw [isReported, isMixedChain, isMixed]
  cases isChain : isConcatenation place.node with
  | false => rfl
  | true =>
      rw [← map_node_operandPlaces isChain, List.any_map, List.any_map, Bool.true_and,
        Bool.true_and, Bool.and_assoc, Bool.and_comm]
      rfl

theorem isReported_mk (node : Node) (index : Nat) (ancestors : List Located) :
    isReported ⟨⟨node, index⟩, ancestors⟩ =
      (isMixedChain node && !ancestors.head?.any (isConcatenation ·.node)) := by
  rw [isReported_eq]
  cases ancestors <;> rfl

def finding (place : Place) : Finding :=
  ⟨"string_concatenation", "Unexpected string concatenation.", place.node.startPosition⟩

theorem findings_eq (surroundings : Surroundings)
    (recent : 2015 ≤ surroundings.capabilities.syntaxVersion.year) (place : Place) :
    findings (place.context surroundings) place.node =
      if isReported place then [finding place] else [] := by
  have around : (place.context surroundings).parent?.any (isConcatenation ·.node) =
      place.parent?.any (isConcatenation ·.node) := by
    obtain ⟨target, ancestors⟩ := place
    cases ancestors <;> rfl
  have supported : (place.context surroundings).capabilities.syntaxVersion.supportsBlockBindings =
      true := decide_eq_true recent
  rw [findings, isOutermost, around, supported, isReported_eq, isMixedChain, Bool.and_true,
    Bool.and_right_comm]
  rfl

theorem judgesBy : rule.JudgesBy (.total fun _ => findings) where
  enter _ _ _ := rfl
  exit _ _ _ := rfl
  finish _ _ := rfl

/-! ## Bracketing -/

mutual

/-- Where the chains in a node that are reported start, `linked` if it stands in a chain. -/
def chainStarts (linked : Bool) : Node → List Position
  | ⟨kind, location, span, attributes, children⟩ =>
      let node : Node := ⟨kind, location, span, attributes, children⟩
      (if isMixedChain node && !linked then [node.startPosition] else []) ++
        chainStartsAll (isConcatenation node) children

def chainStartsAll (linked : Bool) : List Node → List Position
  | [] => []
  | child :: rest => chainStarts linked child ++ chainStartsAll linked rest

end

theorem chainStartsAll_eq_flatMap (linked : Bool) (nodes : List Node) :
    chainStartsAll linked nodes = nodes.flatMap (chainStarts linked) := by
  induction nodes with
  | nil => rfl
  | cons node rest ih => rw [chainStartsAll, List.flatMap_cons, ih]

theorem chainStarts_eq (linked : Bool) (node : Node) :
    chainStarts linked node =
      (if isMixedChain node && !linked then [node.startPosition] else []) ++
        node.children.flatMap (chainStarts (isConcatenation node)) := by
  obtain ⟨kind, location, span, attributes, children⟩ := node
  rw [chainStarts, chainStartsAll_eq_flatMap]

mutual

theorem map_startPosition_filter_isReported (ancestors : List Located) (index : Nat)
    (node : Node) :
    ((placesFrom ancestors index node).filter isReported).map (·.node.startPosition) =
      chainStarts (ancestors.head?.any (isConcatenation ·.node)) node := by
  obtain ⟨kind, location, span, attributes, children⟩ := node
  have below := map_startPosition_filter_isReported_all
    (⟨⟨kind, location, span, attributes, children⟩, index⟩ :: ancestors) 0 children
  rw [List.head?_cons, Option.any_some] at below
  rw [chainStarts, placesFrom, List.filter_cons, isReported_mk, ← below]
  generalize (isMixedChain _ && !_) = reported
  cases reported <;> rfl

theorem map_startPosition_filter_isReported_all (ancestors : List Located) (index : Nat)
    (children : List Node) :
    ((placesFromAll ancestors index children).filter isReported).map (·.node.startPosition) =
      chainStartsAll (ancestors.head?.any (isConcatenation ·.node)) children := by
  cases children with
  | nil => rfl
  | cons child rest =>
      rw [placesFromAll, List.filter_append, List.map_append, chainStartsAll,
        map_startPosition_filter_isReported ancestors index child,
        map_startPosition_filter_isReported_all ancestors (index + 1) rest]

end

theorem map_startPosition_filter_isReported_root (root : Node) :
    ((places root).filter isReported).map (·.node.startPosition) = chainStarts false root :=
  map_startPosition_filter_isReported [] 0 root

mutual

theorem flatMap_chainStarts_operands (node : Node) :
    (operands node).flatMap (chainStarts true) = chainStarts true node := by
  obtain ⟨kind, location, span, attributes, children⟩ := node
  rw [operands]
  by_cases isChain : isConcatenation ⟨kind, location, span, attributes, children⟩
  · rw [if_pos isChain, chainStarts, isChain, flatMap_chainStarts_operandsAll children,
      Bool.not_true, Bool.and_false]
    rfl
  · rw [if_neg isChain, List.flatMap_singleton]

theorem flatMap_chainStarts_operandsAll (nodes : List Node) :
    (operandsAll nodes).flatMap (chainStarts true) = chainStartsAll true nodes := by
  cases nodes with
  | nil => rfl
  | cons node rest =>
      rw [operandsAll, List.flatMap_append, chainStartsAll, flatMap_chainStarts_operands node,
        flatMap_chainStarts_operandsAll rest]

end

theorem chainStarts_of_isConcatenation {node : Node} (isChain : isConcatenation node = true)
    (linked : Bool) :
    chainStarts linked node =
      (if isMixed (operands node) && !linked then [node.startPosition] else []) ++
        (operands node).flatMap (chainStarts true) := by
  have inside := flatMap_chainStarts_operands node
  rw [chainStarts_eq, Bool.not_true, Bool.and_false] at inside
  rw [inside, chainStarts_eq, isMixedChain, isChain, Bool.true_and]
  rfl

/-- Two nodes that nothing around them needs to tell apart. -/
structure Interchangeable (first second : Node) : Prop where
  isConcatenation : isConcatenation first = isConcatenation second
  operandKinds : (operands first).map (·.kind) = (operands second).map (·.kind)
  chainStarts (linked : Bool) : chainStarts linked first = chainStarts linked second

theorem Interchangeable.of_operands {first second : Node}
    (isFirst : PreferTemplate.isConcatenation first = true)
    (isSecond : PreferTemplate.isConcatenation second = true)
    (sameOperands : operands first = operands second)
    (sameStart : first.startPosition = second.startPosition) : Interchangeable first second where
  isConcatenation := isFirst.trans isSecond.symm
  operandKinds := congrArg _ sameOperands
  chainStarts linked := by
    rw [chainStarts_of_isConcatenation isFirst, chainStarts_of_isConcatenation isSecond,
      sameOperands, sameStart]

theorem isMixed_congr {first second : List Node}
    (sameKinds : first.map (·.kind) = second.map (·.kind)) : isMixed first = isMixed second := by
  have ofKinds (nodes : List Node) : isMixed nodes =
      ((nodes.map (·.kind)).any (· = .stringLiteral) && (nodes.map (·.kind)).any fun kind =>
        kind ≠ .stringLiteral && kind ≠ .templateLiteral) := by
    rw [List.any_map, List.any_map]
    rfl
  rw [ofKinds, ofKinds, sameKinds]

theorem flatMap_set_congr {α β : Type} {make : α → List β} {first second : α}
    (same : make first = make second) (items : List α) (index : Nat) :
    (items.set index first).flatMap make = (items.set index second).flatMap make := by
  rw [List.flatMap_def, List.flatMap_def, List.map_set, List.map_set, same]

theorem map_kind_operands_setChild {first second : Node}
    (same : (operands first).map (·.kind) = (operands second).map (·.kind)) (parent : Node)
    (index : Nat) :
    (operands (parent.setChild index first)).map (·.kind) =
      (operands (parent.setChild index second)).map (·.kind) := by
  by_cases isChain : isConcatenation parent = true
  · have spread (node : Node) : operands (parent.setChild index node) =
        (parent.children.set index node).flatMap operands := operands_of_isConcatenation isChain
    rw [spread, spread, List.map_flatMap, List.map_flatMap]
    apply flatMap_set_congr
    exact same
  · have whole (node : Node) :
        operands (parent.setChild index node) = [parent.setChild index node] := by
      rw [operands_eq]
      exact if_neg isChain
    rw [whole, whole]
    rfl

theorem Interchangeable.setChild {first second : Node} (same : Interchangeable first second)
    (parent : Node) (index : Nat) :
    Interchangeable (parent.setChild index first) (parent.setChild index second) where
  isConcatenation := rfl
  operandKinds := map_kind_operands_setChild same.operandKinds parent index
  chainStarts linked := by
    have isMixed := isMixed_congr (map_kind_operands_setChild same.operandKinds parent index)
    rw [chainStarts_eq, chainStarts_eq, isMixedChain, isMixedChain, isMixed]
    exact congrArg _ (flatMap_set_congr (same.chainStarts _) parent.children index)

theorem Interchangeable.rebuilt {first second : Node} (same : Interchangeable first second)
    (index : Nat) (ancestors : List Located) :
    Interchangeable (rebuilt index first ancestors) (rebuilt index second ancestors) := by
  induction ancestors generalizing index first second with
  | nil => exact same
  | cons parent outer ih => exact ih (same.setChild parent.node index) parent.index

theorem chainStarts_replacing {root : Node} {chain : Place} (inTree : chain ∈ places root)
    (isChain : isConcatenation chain.node = true) {nest : Node}
    (isNest : isConcatenation nest = true) (sameOperands : operands nest = operands chain.node)
    (sameStart : nest.startPosition = chain.node.startPosition) :
    chainStarts false (chain.replacing nest) = chainStarts false root := by
  have same := Interchangeable.of_operands isNest isChain sameOperands sameStart
  have whole := (same.rebuilt chain.target.index chain.ancestors).chainStarts false
  exact whole.trans (congrArg _ (replacing_node inTree))

/-! ## What is reported -/

/--
One report on each outermost concatenation among whose operands are a string literal and
something that is neither that nor a template, where it starts.  No report changes if another
chain with the same operands and the same start is put in the place of a chain.
-/
theorem reports_outermost_mixed_chains {registry : Registry} (reachable : registry.Reachable)
    {policy : Policy} {id : String} {plugin : Option String}
    (member : ⟨id, plugin, rule⟩ ∈ registry.rules) {binding : RuleBinding}
    (enabled : policy.activeBinding? id = some binding) (noOptions : binding.options = [])
    (recent : 2015 ≤ policy.capabilities.syntaxVersion.year) (tree : SyntaxTree) :
    let reported (tree : SyntaxTree) :=
      (registry.evaluate policy tree).diagnostics.filter (Diagnostic.ofRule id)
    reported tree = (FileReport.ofDiagnostics tree.path
        (((places tree.root).filter isReported).map fun chain =>
          { ruleId := id, code := "string_concatenation", severity := binding.severity
            message := "Unexpected string concatenation."
            position := chain.node.startPosition, fingerprint := none })).diagnostics ∧
      ∀ chain ∈ places tree.root, isConcatenation chain.node = true →
        (operandPlaces chain).map Place.node = operands chain.node ∧
          ∀ nest, isConcatenation nest = true → operands nest = operands chain.node →
            nest.startPosition = chain.node.startPosition →
            reported ⟨tree.path, chain.replacing nest⟩ = reported tree := by
  intro reported
  have created : rule.create binding.options = .ok () := by
    rw [noOptions]
    rfl
  have shown : ∀ place, isReported place = true → place.kind ∈ rule.interests := by
    intro place flagged
    rw [isReported_eq, isMixedChain, isConcatenation] at flagged
    simp_all [rule, Place.kind]
  have contribution (tree : SyntaxTree) : reported tree = (FileReport.ofDiagnostics tree.path
      (((places tree.root).filter isReported).map fun chain =>
        diagnosticOf id binding.severity (finding chain))).diagnostics :=
    Registry.filter_ofRule_evaluate_of_flags reachable member enabled judgesBy created shown
      (fun place _ => findings_eq _ recent place) tree
  have contribution_eq (tree : SyntaxTree) : reported tree = (FileReport.ofDiagnostics tree.path
      ((chainStarts false tree.root).map fun start => diagnosticOf id binding.severity
        ⟨"string_concatenation", "Unexpected string concatenation.", start⟩)).diagnostics := by
    rw [contribution, ← map_startPosition_filter_isReported_root, List.map_map]
    rfl
  refine ⟨contribution tree, fun chain inTree isChain => ⟨map_node_operandPlaces isChain, ?_⟩⟩
  intro nest isNest sameOperands sameStart
  rw [contribution_eq, contribution_eq,
    chainStarts_replacing inTree isChain isNest sameOperands sameStart]

/-- Brackets to the right do what brackets to the left do, and a chain in a call is one more. -/
theorem reports_chain_bracketed_to_the_right :
    let policy : Policy :=
      { environments := ∅, capabilities := ⟨⟨2015⟩, .script⟩, globals := ∅
        rules := (∅ : Dictionary RuleBinding).insert "prefer-template" ⟨.advisory, []⟩ }
    let name (text : String) : Node := Build.identifier text .reference
    let text (raw : String) : Node := Build.literal .stringLiteral raw
    let inner : Node :=
      { Build.binary "+" (text "'x'") (name "y") with location := ⟨⟨1, 9⟩, ⟨1, 15⟩⟩ }
    let call : Node := Build.call (name "f") [inner]
    let toTheLeft : Node := Build.binary "+" (Build.binary "+" (text "'a'") (name "b")) call
    let toTheRight : Node := Build.binary "+" (text "'a'") (Build.binary "+" (name "b") call)
    let program (expression : Node) : SyntaxTree := ⟨⟨"a.js"⟩, Build.node .program .empty
      [Build.statement .expressionStatement [expression] true]⟩
    let message (start : Position) : Diagnostic := ⟨"prefer-template", "string_concatenation",
      .advisory, "Unexpected string concatenation.", start, none⟩
    let reported (expression : Node) :=
      ((Registry.builtIn .standard).evaluate policy (program expression)).diagnostics.filter
        (Diagnostic.ofRule "prefer-template")
    reported toTheLeft = (FileReport.ofDiagnostics ⟨"a.js"⟩
        [message toTheLeft.startPosition, message inner.startPosition]).diagnostics ∧
      reported toTheRight = reported toTheLeft := by
  intro policy name text inner call toTheLeft toTheRight program message reported
  have member : rule ∈ builtIn .standard := by simp [builtIn]
  have enabled : policy.activeBinding? "prefer-template" = some ⟨.advisory, []⟩ := rfl
  obtain ⟨isReported, chains⟩ := reports_outermost_mixed_chains .builtIn
    (Registry.of_mem_rules_builtIn member) enabled rfl (Nat.le_refl 2015) (program toTheLeft)
  let statement : Node := Build.statement .expressionStatement [toTheLeft] true
  let chain : Place := ⟨⟨toTheLeft, 0⟩, [⟨statement, 0⟩, ⟨(program toTheLeft).root, 0⟩]⟩
  have inTree : chain ∈ places (program toTheLeft).root := .tail _ (.tail _ (.head _))
  refine ⟨isReported, ?_⟩
  exact (chains chain inTree rfl).2 toTheRight rfl rfl rfl

end ScriptLint.Rules.PreferTemplate
