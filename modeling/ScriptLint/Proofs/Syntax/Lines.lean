import ScriptLint.Proofs.Engine.Contribution
import ScriptLint.Proofs.Report.Order

/-!
# Trees on lines

A node lies on a line if it starts and ends there, with its children inside it and apart
from each other.  When this holds of a node and of all nodes below it, the order of the
starts of all these nodes is their order in pre-order, which is the order in which a walk
enters them.  A report on findings at the starts of nodes keeps that order.
-/

namespace ScriptLint

namespace Node

/-! ## Nodes below a node -/

/-- What every node inherits from its children holds of all nodes. -/
@[elab_as_elim]
theorem inductionOnChildren {motive : Node → Prop}
    (step : ∀ node : Node, (∀ child ∈ node.children, motive child) → motive node)
    (node : Node) : motive node :=
  step node fun child _ => inductionOnChildren step child
termination_by sizeOf node
decreasing_by
  rename_i isChild
  obtain ⟨kind, location, span, attributes, children⟩ := node
  have smaller : sizeOf child < sizeOf children := List.sizeOf_lt_of_mem isChild
  simp only [mk.sizeOf_spec]
  omega

def descendants (node : Node) : List Node := node.children.flatMap nodes

theorem map_preorder (depth : Nat) (node : Node) : (node.preorder depth).map (·.2) = node.nodes :=
  (filterMap_entered_visits [] 0 depth node).symm.trans (nodes_eq_filterMap_visits node).symm

theorem map_preorderAll (depth : Nat) (children : List Node) :
    (preorderAll depth children).map (·.2) = children.flatMap nodes := by
  induction children with
  | nil => rfl
  | cons child rest ih => rw [preorderAll, List.map_append, map_preorder, ih, List.flatMap_cons]

theorem nodes_eq (node : Node) : node.nodes = node :: node.descendants := by
  obtain ⟨kind, location, span, attributes, children⟩ := node
  rw [nodes, preorder, List.map_cons, map_preorderAll]
  rfl

theorem mem_nodes_iff {node other : Node} :
    other ∈ node.nodes ↔ other = node ∨ ∃ child ∈ node.children, other ∈ child.nodes := by
  rw [nodes_eq, List.mem_cons, descendants, List.mem_flatMap]

theorem self_mem_nodes (node : Node) : node ∈ node.nodes := mem_nodes_iff.mpr (.inl rfl)

theorem mem_nodes_of_child {node child other : Node} (isChild : child ∈ node.children)
    (member : other ∈ child.nodes) : other ∈ node.nodes :=
  mem_nodes_iff.mpr (.inr ⟨child, isChild, member⟩)

/-! ## Lines -/

/-- A node stands on one line, and its children inside it and apart from each other. -/
structure LiesOn (line : Nat) (node : Node) : Prop where
  startLine : node.location.start.line = line
  stopLine : node.location.stop.line = line
  forward : node.location.start.column < node.location.stop.column
  encloses : ∀ child ∈ node.children,
    node.location.start.column < child.location.start.column ∧
      child.location.stop.column < node.location.stop.column
  apart : node.children.Pairwise fun earlier later =>
    earlier.location.stop.column < later.location.start.column

variable {line : Nat}

theorem within_of_mem_nodes (node : Node) (lie : ∀ other ∈ node.nodes, other.LiesOn line) :
    ∀ other ∈ node.nodes, node.location.start.column ≤ other.location.start.column ∧
      other.location.stop.column ≤ node.location.stop.column := by
  induction node using inductionOnChildren with
  | step node ih =>
      intro other member
      rcases mem_nodes_iff.mp member with rfl | ⟨child, isChild, inChild⟩
      · exact ⟨Nat.le_refl _, Nat.le_refl _⟩
      · obtain ⟨afterStart, beforeStop⟩ := (lie node node.self_mem_nodes).encloses child isChild
        obtain ⟨starts, stops⟩ :=
          ih child isChild (fun _ isIn => lie _ (mem_nodes_of_child isChild isIn)) other inChild
        omega

theorem startColumn_pairwise_nodes (node : Node) (lie : ∀ other ∈ node.nodes, other.LiesOn line) :
    node.nodes.Pairwise fun earlier later =>
      earlier.location.start.column < later.location.start.column := by
  induction node using inductionOnChildren with
  | step node ih =>
      have own := lie node node.self_mem_nodes
      have lieIn {child : Node} (isChild : child ∈ node.children) :
          ∀ other ∈ child.nodes, other.LiesOn line :=
        fun _ isIn => lie _ (mem_nodes_of_child isChild isIn)
      rw [nodes_eq, List.pairwise_cons, descendants]
      constructor
      · intro other member
        obtain ⟨child, isChild, inChild⟩ := List.mem_flatMap.mp member
        have starts := (within_of_mem_nodes child (lieIn isChild) other inChild).1
        have afterStart := (own.encloses child isChild).1
        omega
      · refine List.pairwise_flatMap.mpr ⟨fun child isChild => ih child isChild (lieIn isChild), ?_⟩
        refine own.apart.imp_of_mem fun {earlier later} isEarlier isLater apart => ?_
        intro first inFirst second inSecond
        have stops := (within_of_mem_nodes earlier (lieIn isEarlier) first inFirst).2
        have starts := (within_of_mem_nodes later (lieIn isLater) second inSecond).1
        have forward := (lieIn isEarlier first inFirst).forward
        omega

end Node

/-! ## Places in order -/

def LineColumn.Before (first second : LineColumn) : Prop :=
  first.line < second.line ∨ first.line = second.line ∧ first.column < second.column

theorem LineColumn.Before.asymm {first second : LineColumn} (before : first.Before second) :
    ¬ second.Before first := by
  simp only [Before] at *
  omega

theorem Node.before_pairwise_nodes {siblings : List Node}
    (lie : ∀ (index : Nat) (sibling : Node), siblings[index]? = some sibling →
      ∀ other ∈ sibling.nodes, other.LiesOn (index + 1)) :
    (siblings.flatMap nodes).Pairwise fun earlier later =>
      earlier.location.start.Before later.location.start := by
  refine List.pairwise_flatMap.mpr ⟨fun sibling isSibling => ?_, ?_⟩
  · obtain ⟨index, isAt⟩ := List.mem_iff_getElem?.mp isSibling
    have lieHere := lie index sibling isAt
    refine (startColumn_pairwise_nodes sibling lieHere).imp_of_mem
      fun {earlier later} isEarlier isLater before => .inr ⟨?_, before⟩
    rw [(lieHere earlier isEarlier).startLine, (lieHere later isLater).startLine]
  · rw [List.pairwise_iff_getElem]
    intro index next inRange nextInRange follows first inFirst second inSecond
    have firstLine := (lie index _ (List.getElem?_eq_getElem inRange) first inFirst).startLine
    have secondLine := (lie next _ (List.getElem?_eq_getElem nextInRange) second inSecond).startLine
    refine .inl ?_
    omega

/-! ## Findings at the starts of nodes -/

def Position.place (position : Position) : LineColumn := ⟨position.line, position.column⟩

theorem Diagnostic.notAfter_of_before {first second : Diagnostic}
    (before : first.position.place.Before second.position.place) :
    first.notAfter second = true := by
  rw [notAfter, compare]
  rcases before with (earlier : first.position.line < second.position.line) |
    ⟨(same : first.position.line = second.position.line),
      (earlier : first.position.column < second.position.column)⟩
  · rw [Nat.compare_eq_lt.mpr earlier]
    rfl
  · rw [Nat.compare_eq_eq.mpr same, Nat.compare_eq_lt.mpr earlier]
    rfl

def Diagnostic.AtStarts (reported : Node → List Diagnostic) : Prop :=
  ∀ node, ∀ diagnostic ∈ reported node, diagnostic.position = node.startPosition

section Reported

variable {listed : List Node} {reported : Node → List Diagnostic}

theorem Diagnostic.before_of_atStarts (atStarts : AtStarts reported)
    (ordered : listed.Pairwise fun earlier later =>
      earlier.location.start.Before later.location.start) :
    listed.Pairwise fun earlier later => ∀ first ∈ reported earlier, ∀ second ∈ reported later,
      first.position.place.Before second.position.place := by
  refine ordered.imp fun {earlier later} before first inFirst second inSecond => ?_
  rw [atStarts earlier first inFirst, atStarts later second inSecond]
  exact before

theorem Diagnostic.mergeSort_of_atStarts (atStarts : AtStarts reported)
    (ordered : listed.Pairwise fun earlier later =>
      earlier.location.start.Before later.location.start)
    {le : Diagnostic → Diagnostic → Bool}
    (isPlace : ∀ first second, le first second = true ↔
      ¬ second.position.place.Before first.position.place) :
    (listed.flatMap reported).mergeSort le = listed.flatMap reported := by
  apply List.mergeSort_of_pairwise
  refine List.pairwise_flatMap.mpr ⟨fun node _ => ?_, ?_⟩
  · -- What is reported for one node has one place.
    refine List.pairwise_of_forall_mem_list fun first inFirst second inSecond => ?_
    rw [isPlace, atStarts node first inFirst, atStarts node second inSecond]
    exact fun isBefore => isBefore.asymm isBefore
  · refine (before_of_atStarts atStarts ordered).imp fun before first inFirst second inSecond => ?_
    exact (isPlace first second).mpr (before first inFirst second inSecond).asymm

theorem FileReport.ofDiagnostics_of_atStarts (atStarts : Diagnostic.AtStarts reported)
    (ordered : listed.Pairwise fun earlier later =>
      earlier.location.start.Before later.location.start) (path : RepoPath) :
    (ofDiagnostics path (listed.flatMap reported)).diagnostics =
      listed.flatMap fun node => (ofDiagnostics path (reported node)).diagnostics := by
  have before := Diagnostic.before_of_atStarts atStarts ordered
  have sorted := Diagnostic.mergeSort_flatMap
    (before.imp fun before first inFirst second inSecond =>
      Diagnostic.notAfter_of_before (before first inFirst second inSecond))
  simp only [ofDiagnostics, sorted, List.map_flatMap]

end Reported

end ScriptLint
