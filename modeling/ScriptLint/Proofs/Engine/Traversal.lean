import ScriptLint.Engine.Walk

/-!
# Walks and recursion

A walk keeps what is left to do in a list of steps and the nodes it is inside of
in a second list, and nothing in their types keeps the two together.  Here the walk
is compared with `traverse`, which visits a node, its children and the node again
by recursion on the tree: from any amount of pending work, entering a node leads
in twice as many steps as it has nodes to the work and the open nodes that
were there before, and to what the recursion makes of the state.  Every node,
identified by its address, is met once on the way in and once on the way out.
-/

namespace ScriptLint

universe u v

variable {σ : Type u} {τ : Type v}

/-! ## Traversal by recursion -/

mutual

/-- Visits a node, then its children in order, then the node again. -/
def traverse (visit : σ → Visit → σ) (ancestors : List Located) (index : Nat) : Node → σ → σ
  | ⟨kind, location, span, attributes, children⟩, state =>
      let target : Located := ⟨⟨kind, location, span, attributes, children⟩, index⟩
      let entered := visit state ⟨.enter, target, ancestors⟩
      let below := traverseAll visit (target :: ancestors) 0 children entered
      visit below ⟨.exit, target, ancestors⟩

def traverseAll (visit : σ → Visit → σ) (ancestors : List Located) (index : Nat) :
    List Node → σ → σ
  | [], state => state
  | child :: rest, state =>
      traverseAll visit ancestors (index + 1) rest (traverse visit ancestors index child state)

end

mutual

theorem traverse_eq_foldl (visit : σ → Visit → σ) (ancestors : List Located) (index : Nat)
    (node : Node) (state : σ) :
    traverse visit ancestors index node state =
      (visits ancestors index node).foldl visit state := by
  obtain ⟨kind, location, span, attributes, children⟩ := node
  simp only [traverse, visits, List.foldl_cons, List.foldl_append, List.foldl_nil]
  rw [traverseAll_eq_foldl visit _ 0 children]

theorem traverseAll_eq_foldl (visit : σ → Visit → σ) (ancestors : List Located) (index : Nat)
    (children : List Node) (state : σ) :
    traverseAll visit ancestors index children state =
      (visitsAll ancestors index children).foldl visit state := by
  cases children with
  | nil => rfl
  | cons child rest =>
      simp only [traverseAll, visitsAll, List.foldl_append]
      rw [traverse_eq_foldl visit ancestors index child,
        traverseAll_eq_foldl visit ancestors (index + 1) rest]

end

/-! ## The loop of a walk -/

namespace Walk

structure Config (σ : Type u) where
  pending : List Step
  ancestors : List Located
  state : σ

namespace Config

def start (root : Node) (state : σ) : Config σ := ⟨[.enter ⟨root, 0⟩], [], state⟩

def next? (visit : σ → Visit → σ) (config : Config σ) : Option (Config σ) :=
  match config.pending with
  | [] => none
  | .enter target :: rest =>
      some ⟨target.node.located.map .enter ++ .exit target :: rest, target :: config.ancestors,
        visit config.state ⟨.enter, target, config.ancestors⟩⟩
  | .exit target :: rest =>
      some ⟨rest, config.ancestors.tail,
        visit config.state ⟨.exit, target, config.ancestors.tail⟩⟩

def outcome (visit : σ → Visit → σ) (config : Config σ) : σ :=
  walk visit config.pending config.ancestors config.state

theorem outcome_next {visit : σ → Visit → σ} {config next : Config σ}
    (step : config.next? visit = some next) : config.outcome visit = next.outcome visit := by
  obtain ⟨pending, ancestors, state⟩ := config
  cases pending with
  | nil => cases step
  | cons first rest =>
      cases first <;>
      · simp only [next?, Option.some.injEq] at step
        subst step
        simp only [outcome]
        rw [walk]

end Config

inductive Runs (visit : σ → Visit → σ) : Config σ → Nat → Config σ → Prop
  | refl (config : Config σ) : Runs visit config 0 config
  | next {first second last : Config σ} {count : Nat} (step : first.next? visit = some second)
      (rest : Runs visit second count last) : Runs visit first (count + 1) last

namespace Runs

variable {visit : σ → Visit → σ} {first second last : Config σ} {count more : Nat}

theorem trans (before : Runs visit first count second) (after : Runs visit second more last) :
    Runs visit first (count + more) last := by
  induction before with
  | refl config => simpa using after
  | next step _ ih =>
      rw [Nat.succ_add]
      exact .next step (ih after)

theorem outcome_eq (run : Runs visit first count last) :
    first.outcome visit = last.outcome visit := by
  induction run with
  | refl config => rfl
  | next step _ ih => exact (Config.outcome_next step).trans ih

end Runs

-- The induction is over the tree; the pending steps and the open nodes around the
-- entered node are arbitrary, since a child is entered with its siblings pending.
mutual

theorem runs_enter (visit : σ → Visit → σ) (ancestors : List Located) (index : Nat)
    (node : Node) (pending : List Step) (state : σ) :
    Runs visit ⟨.enter ⟨node, index⟩ :: pending, ancestors, state⟩ (2 * node.size)
      ⟨pending, ancestors, traverse visit ancestors index node state⟩ := by
  obtain ⟨kind, location, span, attributes, children⟩ := node
  have below := runs_enterAll visit
    (⟨⟨kind, location, span, attributes, children⟩, index⟩ :: ancestors) 0 children
    (.exit ⟨⟨kind, location, span, attributes, children⟩, index⟩ :: pending)
    (visit state ⟨.enter, ⟨⟨kind, location, span, attributes, children⟩, index⟩, ancestors⟩)
  have leave := below.trans (.next rfl (.refl _))
  have count : 2 * Node.size ⟨kind, location, span, attributes, children⟩ =
      2 * Node.sizeAll children + (0 + 1) + 1 := by
    simp only [Node.size]
    omega
  rw [count]
  exact .next rfl leave

theorem runs_enterAll (visit : σ → Visit → σ) (ancestors : List Located) (index : Nat)
    (children : List Node) (pending : List Step) (state : σ) :
    Runs visit ⟨(locatedFrom index children).map .enter ++ pending, ancestors, state⟩
      (2 * Node.sizeAll children)
      ⟨pending, ancestors, traverseAll visit ancestors index children state⟩ := by
  cases children with
  | nil => exact .refl _
  | cons child rest =>
      have first := runs_enter visit ancestors index child
        ((locatedFrom (index + 1) rest).map .enter ++ pending) state
      have others := runs_enterAll visit ancestors (index + 1) rest pending
        (traverse visit ancestors index child state)
      simp only [Node.sizeAll, Nat.mul_add]
      exact first.trans others

end

end Walk

theorem walkTree_eq_traverse (visit : σ → Visit → σ) (root : Node) (state : σ) :
    walkTree visit root state = traverse visit [] 0 root state := by
  have run := Walk.runs_enter visit [] 0 root [] state
  have same := run.outcome_eq
  simp only [Walk.Config.outcome] at same
  rw [walkTree, same, walk]

theorem walkTree_eq_foldl (visit : σ → Visit → σ) (root : Node) (state : σ) :
    walkTree visit root state = (visits [] 0 root).foldl visit state := by
  rw [walkTree_eq_traverse, traverse_eq_foldl]

/-! ## Addresses -/

/--
The node at an address below a node, with the nodes passed on the way there, the
nearest first.  An address lists positions among siblings, from the outermost in.
-/
def descend? (passed : List Located) (here : Located) : List Nat → Option (Located × List Located)
  | [] => some (here, passed)
  | index :: rest =>
      match here.node.children[index]? with
      | none => none
      | some child => descend? (here :: passed) ⟨child, index⟩ rest

def positionsOf (path : List Located) : List Nat := (path.map (·.index)).reverse

@[simp] theorem positionsOf_cons (here : Located) (path : List Located) :
    positionsOf (here :: path) = positionsOf path ++ [here.index] := by
  simp [positionsOf]

namespace Visit

def positions (event : Visit) : List Nat := positionsOf (event.target :: event.ancestors)

def address (event : Visit) : List Nat := event.positions.tail

def hasPositions (phase : Phase) (positions : List Nat) (event : Visit) : Bool :=
  event.phase = phase ∧ event.positions = positions

def isAt (phase : Phase) (address : List Nat) (event : Visit) : Bool :=
  event.phase = phase ∧ event.address = address

end Visit

mutual

theorem positions_of_mem_visits {ancestors : List Located} {index : Nat} {node : Node}
    {event : Visit} (member : event ∈ visits ancestors index node) :
    ∃ below, event.positions = positionsOf ancestors ++ index :: below := by
  obtain ⟨kind, location, span, attributes, children⟩ := node
  simp only [visits, List.mem_cons, List.mem_append, List.not_mem_nil, or_false] at member
  rcases member with rfl | inChildren | rfl
  · exact ⟨[], by simp [Visit.positions]⟩
  · obtain ⟨place, below, -, same⟩ := positions_of_mem_visitsAll inChildren
    exact ⟨place :: below, by simp [same]⟩
  · exact ⟨[], by simp [Visit.positions]⟩

theorem positions_of_mem_visitsAll {ancestors : List Located} {index : Nat}
    {children : List Node} {event : Visit} (member : event ∈ visitsAll ancestors index children) :
    ∃ place below, index ≤ place ∧
      event.positions = positionsOf ancestors ++ place :: below := by
  cases children with
  | nil => cases member
  | cons child rest =>
      rcases List.mem_append.mp member with inChild | inRest
      · obtain ⟨below, same⟩ := positions_of_mem_visits inChild
        exact ⟨index, below, Nat.le_refl index, same⟩
      · obtain ⟨place, below, later, same⟩ := positions_of_mem_visitsAll inRest
        exact ⟨place, below, by omega, same⟩

end

private theorem filter_visits_eq_nil {ancestors : List Located} {index place : Nat}
    (different : index ≠ place) (node : Node) (phase : Phase) (below : List Nat) :
    (visits ancestors index node).filter
      (Visit.hasPositions phase (positionsOf ancestors ++ place :: below)) = [] := by
  rw [List.filter_eq_nil_iff]
  intro event member
  obtain ⟨own, same⟩ := positions_of_mem_visits member
  simp [Visit.hasPositions, same, different]

private theorem filter_visitsAll_eq_nil {ancestors : List Located} {index place : Nat}
    (earlier : place < index) (children : List Node) (phase : Phase) (below : List Nat) :
    (visitsAll ancestors index children).filter
      (Visit.hasPositions phase (positionsOf ancestors ++ place :: below)) = [] := by
  rw [List.filter_eq_nil_iff]
  intro event member
  obtain ⟨own, ownBelow, later, same⟩ := positions_of_mem_visitsAll member
  have different : own ≠ place := by omega
  simp [Visit.hasPositions, same, different]

def Visit.ofFound (phase : Phase) (found : Located × List Located) : Visit :=
  ⟨phase, found.1, found.2⟩

mutual

theorem filter_visits (phase : Phase) (ancestors : List Located) (index : Nat) (node : Node)
    (below : List Nat) :
    (visits ancestors index node).filter
        (Visit.hasPositions phase (positionsOf ancestors ++ index :: below)) =
      ((descend? ancestors ⟨node, index⟩ below).map (Visit.ofFound phase)).toList := by
  obtain ⟨kind, location, span, attributes, children⟩ := node
  cases below with
  | nil =>
      have noneBelow : (visitsAll (⟨⟨kind, location, span, attributes, children⟩, index⟩ ::
          ancestors) 0 children).filter
            (Visit.hasPositions phase (positionsOf ancestors ++ [index])) = [] := by
        rw [List.filter_eq_nil_iff]
        intro event member
        obtain ⟨place, below, -, same⟩ := positions_of_mem_visitsAll member
        simp [Visit.hasPositions, same]
      simp only [visits, List.filter_cons, List.filter_append, noneBelow]
      cases phase <;> simp [Visit.hasPositions, Visit.positions, descend?, Visit.ofFound]
  | cons place rest =>
      have inChildren := filter_visitsAll phase
        (⟨⟨kind, location, span, attributes, children⟩, index⟩ :: ancestors) 0 children place rest
      rw [positionsOf_cons, List.append_assoc, List.singleton_append] at inChildren
      simp only [visits, List.filter_cons, List.filter_append, inChildren]
      cases found : children[place]? <;>
        simp [Visit.hasPositions, Visit.positions, descend?, found]

theorem filter_visitsAll (phase : Phase) (ancestors : List Located) (index : Nat)
    (children : List Node) (place : Nat) (below : List Nat) :
    (visitsAll ancestors index children).filter
        (Visit.hasPositions phase (positionsOf ancestors ++ place :: below)) =
      ((if index ≤ place then children[place - index]? else none).bind fun child =>
        (descend? ancestors ⟨child, place⟩ below).map (Visit.ofFound phase)).toList := by
  cases children with
  | nil => simp [visitsAll]
  | cons child rest =>
      simp only [visitsAll, List.filter_append]
      by_cases here : index = place
      · subst here
        rw [filter_visits phase ancestors index child below,
          filter_visitsAll_eq_nil (Nat.lt_succ_self index)]
        simp
      · rw [filter_visits_eq_nil here, filter_visitsAll phase ancestors (index + 1) rest]
        by_cases later : index ≤ place
        · have next : index + 1 ≤ place := by omega
          have distance : place - index = place - (index + 1) + 1 := by omega
          simp [later, next, distance]
        · have notNext : ¬ index + 1 ≤ place := by omega
          simp [later, notNext]

end

/-- Every node is visited once in each phase, with the nodes passed on the way to it around it. -/
theorem filter_visits_isAt (phase : Phase) (root : Node) (address : List Nat) :
    (visits [] 0 root).filter (Visit.isAt phase address) =
      ((descend? [] ⟨root, 0⟩ address).map (Visit.ofFound phase)).toList := by
  rw [← filter_visits phase [] 0 root address]
  apply List.filter_congr
  intro event member
  obtain ⟨below, same⟩ := positions_of_mem_visits member
  simp [Visit.isAt, Visit.hasPositions, Visit.address, same, positionsOf]

theorem descend?_of_mem_visits {root : Node} {event : Visit} (member : event ∈ visits [] 0 root) :
    descend? [] ⟨root, 0⟩ event.address = some (event.target, event.ancestors) := by
  have kept : event ∈ (visits [] 0 root).filter (Visit.isAt event.phase event.address) :=
    List.mem_filter.mpr ⟨member, by simp [Visit.isAt]⟩
  rw [filter_visits_isAt, Option.mem_toList, Option.map_eq_some_iff] at kept
  obtain ⟨found, reached, same⟩ := kept
  rw [reached, ← same]
  rfl

end ScriptLint
