import ScriptLint.Proofs.Syntax.Lines
import ScriptLint.Syntax.Build
import ScriptLint.Syntax.Layout

/-!
# Positions of laid out trees

A layout gives each statement a line of its own and each node an interval of columns.  The
width of a node says where it ends, so a node lies strictly inside the one around it and
begins after the one before it.  Nothing else of a tree changes.
-/

namespace ScriptLint

/-! ## Nodes and their places -/

mutual

def Node.unplaced : Node → Node
  | ⟨kind, _, _, attributes, children⟩ => ⟨kind, .zero, .zero, attributes, unplacedAll children⟩

def Node.unplacedAll : List Node → List Node
  | [] => []
  | child :: rest => child.unplaced :: unplacedAll rest

end

/-- All lines and columns of a node are below a bound. -/
def Node.StaysBelow (bound : Nat) (node : Node) : Prop :=
  ∀ place ∈ [node.location.start, node.location.stop], place.line < bound ∧ place.column < bound

namespace Layout

/-! ## Widths -/

mutual

def width : Node → Nat
  | ⟨_, _, _, attributes, []⟩ => leafWidth attributes
  | ⟨_, _, _, _, child :: rest⟩ => widthAll (child :: rest) + 1

def widthAll : List Node → Nat
  | [] => 0
  | child :: rest => width child + 1 + widthAll rest

end

theorem leafWidth_pos (attributes : Attributes) : 0 < leafWidth attributes := by
  rw [leafWidth]
  split
  · exact Nat.lt_of_lt_of_le Nat.zero_lt_one (Nat.le_max_right _ _)
  · exact Nat.zero_lt_one

theorem width_pos (child : Node) : 0 < width child := by
  obtain ⟨kind, location, span, attributes, children⟩ := child
  cases children with
  | nil => exact leafWidth_pos attributes
  | cons child rest => exact Nat.succ_pos _

mutual

theorem stop_node (line column : Nat) (tree : Node) :
    (node line column tree).2 = column + width tree := by
  obtain ⟨kind, location, span, attributes, children⟩ := tree
  cases children with
  | nil => rfl
  | cons child rest =>
      simp only [node, width, stop_nodes line column (child :: rest)]
      omega

theorem stop_nodes (line cursor : Nat) (siblings : List Node) :
    (nodes line cursor siblings).2 = cursor + widthAll siblings := by
  cases siblings with
  | nil => rfl
  | cons child rest =>
      simp only [nodes, widthAll, stop_node line (cursor + 1) child, stop_nodes line _ rest]
      omega

end

/-! ## Laid out nodes -/

theorem location_node (line column : Nat) (tree : Node) :
    (node line column tree).1.location = ⟨⟨line, column⟩, ⟨line, column + width tree⟩⟩ := by
  rw [← stop_node line column tree]
  obtain ⟨kind, location, span, attributes, children⟩ := tree
  cases children <;> rfl

theorem startColumn_node (line column : Nat) (tree : Node) :
    (node line column tree).1.location.start.column = column := by rw [location_node]

theorem stopColumn_node (line column : Nat) (tree : Node) :
    (node line column tree).1.location.stop.column = column + width tree := by rw [location_node]

theorem children_node (line column : Nat) (tree : Node) :
    (node line column tree).1.children = (nodes line column tree.children).1 := by
  obtain ⟨kind, location, span, attributes, children⟩ := tree
  cases children <;> rfl

theorem widthAll_lt_width (tree : Node) : widthAll tree.children < width tree := by
  obtain ⟨kind, location, span, attributes, children⟩ := tree
  cases children with
  | nil => exact leafWidth_pos attributes
  | cons child rest => exact Nat.lt_succ_self _

theorem nodes_cons (line cursor : Nat) (child : Node) (rest : List Node) :
    (nodes line cursor (child :: rest)).1 =
      (node line (cursor + 1) child).1 :: (nodes line (cursor + 1 + width child) rest).1 := by
  simp only [nodes, stop_node]

theorem exists_of_mem_nodes {line cursor : Nat} {siblings : List Node} {laid : Node}
    (member : laid ∈ (nodes line cursor siblings).1) :
    ∃ child ∈ siblings, ∃ column, cursor < column ∧
      column + width child ≤ cursor + widthAll siblings ∧ laid = (node line column child).1 := by
  induction siblings generalizing cursor with
  | nil => cases member
  | cons child rest ih =>
      rw [nodes_cons, List.mem_cons] at member
      rcases member with rfl | later
      · exact ⟨child, List.mem_cons_self, cursor + 1, by omega, by rw [widthAll]; omega, rfl⟩
      · obtain ⟨other, isOther, column, after, fits, rfl⟩ := ih later
        exact ⟨other, List.mem_cons_of_mem _ isOther, column, by omega, by rw [widthAll]; omega,
          rfl⟩

theorem pairwise_nodes (line cursor : Nat) (siblings : List Node) :
    (nodes line cursor siblings).1.Pairwise fun earlier later =>
      earlier.location.stop.column < later.location.start.column := by
  induction siblings generalizing cursor with
  | nil => exact .nil
  | cons child rest ih =>
      rw [nodes_cons, List.pairwise_cons]
      refine ⟨fun later member => ?_, ih _⟩
      obtain ⟨other, -, column, after, -, rfl⟩ := exists_of_mem_nodes member
      rw [stopColumn_node, startColumn_node]
      exact after

theorem liesOn_node (line column : Nat) (tree : Node) :
    (node line column tree).1.LiesOn line where
  startLine := by rw [location_node]
  stopLine := by rw [location_node]
  forward := by
    rw [startColumn_node, stopColumn_node]
    exact Nat.lt_add_of_pos_right (width_pos tree)
  encloses laid member := by
    rw [children_node] at member
    obtain ⟨child, -, start, after, fits, rfl⟩ := exists_of_mem_nodes member
    have smaller := widthAll_lt_width tree
    rw [startColumn_node, startColumn_node, stopColumn_node, stopColumn_node]
    omega
  apart := by
    rw [children_node]
    exact pairwise_nodes line column tree.children

theorem liesOn_of_mem_nodes_node {line column : Nat} {tree laid : Node}
    (member : laid ∈ (node line column tree).1.nodes) : laid.LiesOn line := by
  induction tree using Node.inductionOnChildren generalizing column with
  | step tree ih =>
      rcases Node.mem_nodes_iff.mp member with rfl | ⟨child, isChild, inChild⟩
      · exact liesOn_node line column tree
      · rw [children_node] at isChild
        obtain ⟨other, isOther, start, -, -, rfl⟩ := exists_of_mem_nodes isChild
        exact ih other isOther inChild

/-! ## Statements -/

theorem statements_eq_mapIdx (line : Nat) (last : LineColumn) (body : List Node) :
    (statements line last body).1 =
      body.mapIdx fun index statement => (node (line + index) 1 statement).1 := by
  induction body generalizing line last with
  | nil => rfl
  | cons statement rest ih =>
      simp only [statements, ih, List.mapIdx_cons, Nat.add_zero, Nat.add_assoc, Nat.add_comm 1]

theorem children_program (body : List Node) :
    (program body).children =
      body.mapIdx fun index statement => (node (1 + index) 1 statement).1 :=
  statements_eq_mapIdx 1 ⟨1, 1⟩ body

theorem getElem?_children_program (body : List Node) (index : Nat) :
    (program body).children[index]? =
      body[index]?.map fun statement => (node (index + 1) 1 statement).1 := by
  rw [children_program, List.getElem?_mapIdx, Nat.add_comm]

theorem liesOn_of_mem_program {body : List Node} {index : Nat} {statement laid : Node}
    (isStatement : (program body).children[index]? = some statement)
    (member : laid ∈ statement.nodes) : laid.LiesOn (index + 1) := by
  rw [getElem?_children_program, Option.map_eq_some_iff] at isStatement
  obtain ⟨unplaced, -, rfl⟩ := isStatement
  exact liesOn_of_mem_nodes_node member

/-! ## What a layout leaves alone -/

mutual

theorem unplaced_node (line column : Nat) (tree : Node) :
    (node line column tree).1.unplaced = tree.unplaced := by
  obtain ⟨kind, location, span, attributes, children⟩ := tree
  cases children with
  | nil => rfl
  | cons child rest =>
      simp only [node, placed, Node.unplaced, unplacedAll_nodes line column (child :: rest)]

theorem unplacedAll_nodes (line cursor : Nat) (siblings : List Node) :
    Node.unplacedAll (nodes line cursor siblings).1 = Node.unplacedAll siblings := by
  cases siblings with
  | nil => rfl
  | cons child rest =>
      rw [nodes_cons, Node.unplacedAll, Node.unplacedAll, unplaced_node line _ child,
        unplacedAll_nodes line _ rest]

end

theorem unplacedAll_statements (line : Nat) (last : LineColumn) (body : List Node) :
    Node.unplacedAll (statements line last body).1 = Node.unplacedAll body := by
  induction body generalizing line last with
  | nil => rfl
  | cons statement rest ih =>
      simp only [statements, Node.unplacedAll, unplaced_node, ih]

theorem unplaced_program (body : List Node) :
    (program body).unplaced = (Build.node .program .empty body).unplaced := by
  rw [program, Build.node, Node.unplaced, Node.unplaced, unplacedAll_statements]

/-! ## Bounds -/

variable {bound : Nat}

theorem staysBelow_of_mem_nodes_node {line : Nat} {tree laid : Node} (lineBelow : line < bound)
    (columnsBelow : 1 + width tree < bound) (member : laid ∈ (node line 1 tree).1.nodes) :
    laid.StaysBelow bound := by
  have lies := liesOn_of_mem_nodes_node member
  have stops := (Node.within_of_mem_nodes _ (fun _ => liesOn_of_mem_nodes_node) laid member).2
  rw [stopColumn_node] at stops
  have forward := lies.forward
  have startLine := lies.startLine
  have stopLine := lies.stopLine
  refine List.forall_mem_cons.mpr ⟨?_, List.forall_mem_singleton.mpr ?_⟩ <;> constructor <;> omega

theorem stop_statements_cases (line : Nat) (last : LineColumn) (body : List Node) :
    (statements line last body).2 = last ∨
      ∃ (index : Nat) (statement : Node), body[index]? = some statement ∧
        (statements line last body).2 = ⟨line + index, 1 + width statement⟩ := by
  induction body generalizing line last with
  | nil => exact .inl rfl
  | cons statement rest ih =>
      rw [statements]
      rcases ih (line + 1) ⟨line, (node line 1 statement).2⟩ with same | ⟨index, other, isAt, same⟩
      · refine .inr ⟨0, statement, rfl, ?_⟩
        rw [← stop_node line 1 statement]
        exact same
      · refine .inr ⟨index + 1, other, isAt, same.trans ?_⟩
        rw [Nat.add_right_comm]
        rfl

theorem staysBelow_program {body : List Node} (aboveOne : 1 < bound) (lines : body.length < bound)
    (columns : ∀ statement ∈ body, 1 + width statement < bound) :
    (program body).StaysBelow bound := by
  have stop : (program body).location.stop = (statements 1 ⟨1, 1⟩ body).2 := rfl
  refine List.forall_mem_cons.mpr ⟨⟨aboveOne, aboveOne⟩, List.forall_mem_singleton.mpr ?_⟩
  rw [stop]
  rcases stop_statements_cases 1 ⟨1, 1⟩ body with same | ⟨index, statement, isAt, same⟩
  · rw [same]
    exact ⟨aboveOne, aboveOne⟩
  · obtain ⟨inRange, -⟩ := List.getElem?_eq_some_iff.mp isAt
    have column := columns statement (List.mem_of_getElem? isAt)
    have line : 1 + index < bound := by omega
    rw [same]
    exact ⟨line, column⟩

theorem staysBelow_of_mem_nodes_program {body : List Node} {laid : Node} (aboveOne : 1 < bound)
    (lines : body.length < bound) (columns : ∀ statement ∈ body, 1 + width statement < bound)
    (member : laid ∈ (program body).nodes) : laid.StaysBelow bound := by
  rcases Node.mem_nodes_iff.mp member with rfl | ⟨child, isChild, inChild⟩
  · exact staysBelow_program aboveOne lines columns
  · obtain ⟨index, isAt⟩ := List.mem_iff_getElem?.mp isChild
    rw [getElem?_children_program, Option.map_eq_some_iff] at isAt
    obtain ⟨statement, isStatement, rfl⟩ := isAt
    obtain ⟨inRange, -⟩ := List.getElem?_eq_some_iff.mp isStatement
    have lineBelow : index + 1 < bound := by omega
    exact staysBelow_of_mem_nodes_node lineBelow
      (columns statement (List.mem_of_getElem? isStatement)) inChild

/-! ## Programs -/

/--
The nodes of a laid out program start one after the other in the order in which a walk enters
them.  Each statement lies on its own line with all that is in it, every node strictly inside
the one around it and behind the one before it, and only places differ from those of the
statements as they were given.  Findings at the starts of nodes are therefore in order when
they come in the order of the walk: sorting by place leaves them as they are, and a report on
them is made up of the reports on the single nodes.  All that a layout computes are lines and
columns of its result, and 32 bits hold them if they hold the last column and the number of
the statements.
-/
theorem program_keeps_source_order (body : List Node) :
    let root := program body
    (visits [] 0 root).filterMap Visit.entered? = root :: root.descendants ∧
      root.descendants.Pairwise (fun earlier later =>
        earlier.location.start.Before later.location.start) ∧
      (∀ (index : Nat) (statement : Node), root.children[index]? = some statement →
        ∀ laid ∈ statement.nodes, laid.LiesOn (index + 1)) ∧
      root.unplaced = (Build.node .program .empty body).unplaced ∧
      (∀ reported, Diagnostic.AtStarts reported →
        (∀ le : Diagnostic → Diagnostic → Bool,
          (∀ first second, le first second = true ↔
            ¬ second.position.place.Before first.position.place) →
          (root.descendants.flatMap reported).mergeSort le = root.descendants.flatMap reported) ∧
        ∀ path, (FileReport.ofDiagnostics path (root.descendants.flatMap reported)).diagnostics =
          root.descendants.flatMap fun laid =>
            (FileReport.ofDiagnostics path (reported laid)).diagnostics) ∧
      ((∀ statement ∈ body, 1 + width statement < 0x100000000) → body.length < 0x100000000 →
        ∀ laid ∈ root.nodes, laid.StaysBelow 0x100000000) := by
  intro root
  have lie : ∀ (index : Nat) (statement : Node), root.children[index]? = some statement →
      ∀ laid ∈ statement.nodes, laid.LiesOn (index + 1) :=
    fun _ _ isStatement _ => liesOn_of_mem_program isStatement
  have ordered : root.descendants.Pairwise _ := Node.before_pairwise_nodes lie
  have entered := (Node.nodes_eq_filterMap_visits root).symm.trans root.nodes_eq
  refine ⟨entered, ordered, lie, unplaced_program body, fun reported atStarts => ?_,
    fun columns lines _ => staysBelow_of_mem_nodes_program (by decide) lines columns⟩
  exact ⟨fun _ isPlace => Diagnostic.mergeSort_of_atStarts atStarts ordered isPlace,
    FileReport.ofDiagnostics_of_atStarts atStarts ordered⟩

/-- A statement inside a function and a call on the next line, with a finding at each node. -/
theorem program_of_function_and_call :
    let body : List Node :=
      [Build.function "run" ["job"] [Build.statement .debuggerStatement [] true],
        Build.statement .expressionStatement
          [Build.call (Build.identifier "run" .reference) []] false]
    let root := program body
    let finding (node : Node) : Diagnostic :=
      ⟨"house/nodes", node.kind.name, .advisory, "Unexpected node.", node.startPosition, none⟩
    root.descendants.map (·.location.start) =
        [⟨1, 1⟩, ⟨1, 2⟩, ⟨1, 6⟩, ⟨1, 7⟩, ⟨1, 12⟩, ⟨1, 13⟩, ⟨2, 1⟩, ⟨2, 2⟩, ⟨2, 3⟩] ∧
      (FileReport.ofDiagnostics ⟨"a.js"⟩
          (root.descendants.flatMap fun node => [finding node])).diagnostics =
        root.descendants.flatMap (fun node => [(finding node).stamped ⟨"a.js"⟩]) ∧
      ∀ laid ∈ root.nodes, laid.StaysBelow 0x100000000 := by
  intro body root finding
  have atStarts : Diagnostic.AtStarts fun node => [finding node] := by
    intro node diagnostic member
    cases List.mem_singleton.mp member
    rfl
  have widths : body.map width = [15, 7] := rfl
  have columns : ∀ total ∈ body.map width, 1 + total < 0x100000000 := by
    rw [widths]
    decide
  have alone (node : Node) : (FileReport.ofDiagnostics ⟨"a.js"⟩ [finding node]).diagnostics =
      [(finding node).stamped ⟨"a.js"⟩] := by
    simp only [FileReport.ofDiagnostics, List.mergeSort_singleton, List.map_singleton]
  obtain ⟨-, -, -, -, reports, bounds⟩ := program_keeps_source_order body
  have listed := (reports _ atStarts).2 ⟨"a.js"⟩
  simp only [alone] at listed
  exact ⟨rfl, listed, bounds (List.forall_mem_map.mp columns) (by decide)⟩

end Layout

end ScriptLint
