import ScriptLint.Proofs.Lexical.Progress

/-!
# What stands inside a node

Between the visits that enter and leave a node a walk visits what stands inside the node
and nothing else.  So the places inside a node follow on it in pre-order, and they are
those that it encloses.
-/

namespace ScriptLint

theorem append_eq_append_cons {α : Type} {first second before after : List α} {item : α}
    (split : first ++ second = before ++ item :: after) :
    (∃ middle, first = before ++ item :: middle ∧ after = middle ++ second) ∨
      ∃ middle, before = first ++ middle ∧ second = middle ++ item :: after := by
  rcases List.append_eq_append_iff.mp split with ⟨middle, inSecond⟩ | ⟨middle, rfl, rest⟩
  · exact .inr ⟨middle, inSecond⟩
  · cases middle with
    | nil => exact .inr ⟨[], by simp, rest.symm⟩
    | cons other middle =>
        obtain ⟨rfl, rfl⟩ := List.cons.inj rest
        exact .inl ⟨middle, rfl, rfl⟩

mutual

theorem exists_below_of_visits_eq {ancestors around : List Located} {index : Nat} {node : Node}
    {target : Located} {before after : List Visit}
    (split : visits ancestors index node = before ++ ⟨.enter, target, around⟩ :: after) :
    ∃ rest, after =
      visitsAll (target :: around) 0 target.node.children ++ ⟨.exit, target, around⟩ :: rest := by
  obtain ⟨kind, location, span, attributes, children⟩ := node
  rw [visits] at split
  cases before with
  | nil =>
      obtain ⟨same, rfl⟩ := List.cons.inj split
      obtain ⟨-, rfl, rfl⟩ := Visit.mk.inj same
      exact ⟨[], rfl⟩
  | cons first before =>
      rcases append_eq_append_cons (List.cons.inj split).2 with
        ⟨middle, inside, rfl⟩ | ⟨middle, -, last⟩
      · obtain ⟨rest, rfl⟩ := exists_below_of_visitsAll_eq inside
        exact ⟨rest ++ _, List.append_assoc _ _ _⟩
      · -- The last visit leaves a node.
        obtain ⟨-, exits⟩ | ⟨others, -, nothing⟩ := List.cons_eq_append_iff.mp last
        · simp at exits
        · simp at nothing

theorem exists_below_of_visitsAll_eq {ancestors around : List Located} {index : Nat}
    {children : List Node} {target : Located} {before after : List Visit}
    (split : visitsAll ancestors index children = before ++ ⟨.enter, target, around⟩ :: after) :
    ∃ rest, after =
      visitsAll (target :: around) 0 target.node.children ++ ⟨.exit, target, around⟩ :: rest := by
  cases children with
  | nil => simp [visitsAll] at split
  | cons child children =>
      rcases append_eq_append_cons split with ⟨middle, inChild, rfl⟩ | ⟨middle, -, inRest⟩
      · obtain ⟨rest, rfl⟩ := exists_below_of_visits_eq inChild
        exact ⟨rest ++ _, List.append_assoc _ _ _⟩
      · exact exists_below_of_visitsAll_eq inRest

end

def Node.setChild (node : Node) (index : Nat) (child : Node) : Node :=
  { node with children := node.children.set index child }

theorem Node.setChild_child? {node child : Node} {index : Nat}
    (isChild : node.child? index = some child) : node.setChild index child = node := by
  obtain ⟨kind, location, span, attributes, children⟩ := node
  obtain ⟨inRange, isNode⟩ := List.getElem?_eq_some_iff.mp isChild
  rw [setChild, ← isNode, List.set_getElem_self]

namespace Lexical

def Place.entering (place : Place) : Visit := ⟨.enter, place.target, place.ancestors⟩

def Place.child? (place : Place) (index : Nat) : Option Place :=
  (place.node.child? index).map fun child => ⟨⟨child, index⟩, place.target :: place.ancestors⟩

theorem exists_of_child?_zero {root : Node} {place child : Place} {before after : List Visit}
    (split : visits [] 0 root = before ++ place.entering :: after)
    (first : place.child? 0 = some child) : ∃ rest, after = child.entering :: rest := by
  obtain ⟨rest, rfl⟩ := exists_below_of_visits_eq split
  obtain ⟨node, isFirst, rfl⟩ := Option.map_eq_some_iff.mp first
  rw [Place.node, Node.child?] at isFirst
  cases children : place.target.node.children with
  | nil => simp [children] at isFirst
  | cons other others =>
      obtain rfl : other = node := by simpa [children] using isFirst
      obtain ⟨kind, location, span, attributes, below⟩ := other
      exact ⟨_, rfl⟩

mutual

theorem placesOf_subset_enclosing {ancestors : List Located} {index : Nat} {node : Node}
    {place : Place} (member : place ∈ placesFrom ancestors index node) :
    placesOf ancestors ⊆ place.enclosing := by
  obtain ⟨kind, location, span, attributes, children⟩ := node
  rw [placesFrom, List.mem_cons] at member
  rcases member with rfl | below
  · exact fun _ encloses => encloses
  · exact fun _ encloses => placesOf_subset_enclosingAll below (List.mem_cons_of_mem _ encloses)

theorem placesOf_subset_enclosingAll {ancestors : List Located} {index : Nat}
    {children : List Node} {place : Place}
    (member : place ∈ placesFromAll ancestors index children) :
    placesOf ancestors ⊆ place.enclosing := by
  cases children with
  | nil => cases member
  | cons child rest =>
      rw [placesFromAll, List.mem_append] at member
      rcases member with inChild | inRest
      · exact placesOf_subset_enclosing inChild
      · exact placesOf_subset_enclosingAll inRest

end

/-! ## The places inside a place -/

def Place.inside (place : Place) : List Place :=
  placesFromAll (place.target :: place.ancestors) 0 place.node.children

mutual

theorem mem_inside_of_mem_placesFrom {ancestors : List Located} {index : Nat} {node : Node}
    {place around : Place} (member : place ∈ placesFrom ancestors index node)
    (encloses : around ∈ place.enclosing) :
    around ∈ placesOf ancestors ∨ place ∈ around.inside := by
  obtain ⟨kind, location, span, attributes, children⟩ := node
  rw [placesFrom, List.mem_cons] at member
  rcases member with rfl | below
  · exact .inl encloses
  · rcases mem_inside_of_mem_placesFromAll below encloses with outside | inside
    · rcases List.mem_cons.mp outside with rfl | outside
      · exact .inr below
      · exact .inl outside
    · exact .inr inside

theorem mem_inside_of_mem_placesFromAll {ancestors : List Located} {index : Nat}
    {children : List Node} {place around : Place}
    (member : place ∈ placesFromAll ancestors index children)
    (encloses : around ∈ place.enclosing) :
    around ∈ placesOf ancestors ∨ place ∈ around.inside := by
  cases children with
  | nil => cases member
  | cons child rest =>
      rw [placesFromAll, List.mem_append] at member
      rcases member with inChild | inRest
      · exact mem_inside_of_mem_placesFrom inChild encloses
      · exact mem_inside_of_mem_placesFromAll inRest encloses

end

theorem mem_inside {root : Node} {place around : Place} (member : place ∈ places root)
    (encloses : around ∈ place.enclosing) : place ∈ around.inside := by
  rcases mem_inside_of_mem_placesFrom member encloses with outside | inside
  · cases outside
  · exact inside

/-- In pre-order the places inside a place follow on it. -/
theorem exists_places_eq {root : Node} {place : Place} (member : place ∈ places root) :
    ∃ before after, places root = before ++ place :: (place.inside ++ after) := by
  obtain ⟨before, others, split⟩ := List.append_of_mem (mem_visits_of_mem_placesFrom member)
  obtain ⟨after, rfl⟩ := exists_below_of_visits_eq split
  refine ⟨entered before, entered after, ?_⟩
  rw [← entered_walk, split, entered_append, Place.inside, ← entered_visitsAll]
  exact congrArg _ (congrArg _ (entered_append _ _))

theorem inside_subset_places {root : Node} {place : Place} (member : place ∈ places root) :
    place.inside ⊆ places root := by
  obtain ⟨before, after, split⟩ := exists_places_eq member
  rw [split]
  intro other inside
  simp [inside]

theorem scopes_ne_nil {root : Node} (isProgram : root.kind = .program) {place : Place}
    (member : place ∈ places root) (below : place.ancestors ≠ []) : place.scopes ≠ [] := by
  obtain ⟨kind, location, span, attributes, children⟩ := root
  obtain rfl : kind = .program := isProgram
  rw [places, placesFrom, List.mem_cons] at member
  rcases member with rfl | inside
  · exact absurd rfl below
  · have encloses := placesOf_subset_enclosingAll inside List.mem_cons_self
    exact List.ne_nil_of_mem (List.mem_filter.mpr ⟨encloses, rfl⟩)

/-! ## Children -/

def Place.children (place : Place) : List Place :=
  place.node.located.map fun child => ⟨child, place.target :: place.ancestors⟩

theorem locatedFrom_append (index : Nat) (first second : List Node) :
    locatedFrom index (first ++ second) =
      locatedFrom index first ++ locatedFrom (index + first.length) second := by
  induction first generalizing index with
  | nil => rfl
  | cons node first ih =>
      rw [List.cons_append, locatedFrom, ih, locatedFrom, List.length_cons, List.cons_append,
        Nat.add_assoc, Nat.add_comm 1]

theorem getElem?_of_mem_locatedFrom {index : Nat} {nodes : List Node} {located : Located}
    (member : located ∈ locatedFrom index nodes) :
    index ≤ located.index ∧ nodes[located.index - index]? = some located.node := by
  induction nodes generalizing index with
  | nil => cases member
  | cons node rest ih =>
      rcases List.mem_cons.mp member with rfl | later
      · simp
      · obtain ⟨behind, isNode⟩ := ih later
        refine ⟨Nat.le_of_succ_le behind, ?_⟩
        rw [show located.index - index = located.index - (index + 1) + 1 by omega,
          List.getElem?_cons_succ, isNode]

theorem pairwise_locatedFrom (index : Nat) (nodes : List Node) :
    (locatedFrom index nodes).Pairwise fun first second => first.index < second.index := by
  induction nodes generalizing index with
  | nil => exact .nil
  | cons node rest ih =>
      refine .cons (fun later member => ?_) (ih (index + 1))
      exact (getElem?_of_mem_locatedFrom member).1

theorem pairwise_children (place : Place) :
    place.children.Pairwise fun first second => first.target.index < second.target.index :=
  List.pairwise_map.mpr (pairwise_locatedFrom 0 place.node.children)

theorem placesFrom_eq_cons (ancestors : List Located) (index : Nat) (node : Node) :
    placesFrom ancestors index node =
      ⟨⟨node, index⟩, ancestors⟩ :: Place.inside ⟨⟨node, index⟩, ancestors⟩ := by
  obtain ⟨kind, location, span, attributes, children⟩ := node
  rfl

theorem placesFromAll_eq_flatMap (ancestors : List Located) (index : Nat) (nodes : List Node) :
    placesFromAll ancestors index nodes =
      (locatedFrom index nodes).flatMap fun child =>
        ⟨child, ancestors⟩ :: Place.inside ⟨child, ancestors⟩ := by
  induction nodes generalizing index with
  | nil => rfl
  | cons node rest ih =>
      rw [placesFromAll, placesFrom_eq_cons, ih, locatedFrom, List.flatMap_cons]

theorem inside_eq_flatMap (place : Place) :
    place.inside = place.children.flatMap fun child => child :: child.inside := by
  rw [Place.inside, placesFromAll_eq_flatMap, Place.children, List.flatMap_map]
  rfl

theorem enclosing_of_parent? {place parent : Place} (around : place.parent? = some parent) :
    place.enclosing = parent :: parent.enclosing := by
  obtain ⟨target, ancestors⟩ := place
  cases ancestors with
  | nil => cases around
  | cons located outer =>
      cases around
      rfl

theorem parent?_of_child? {place child : Place} {index : Nat}
    (isChild : place.child? index = some child) : child.parent? = some place := by
  obtain ⟨node, -, rfl⟩ := Option.map_eq_some_iff.mp isChild
  rfl

theorem parent?_of_mem_children {place child : Place} (member : child ∈ place.children) :
    child.parent? = some place := by
  obtain ⟨located, -, rfl⟩ := List.mem_map.mp member
  rfl

theorem child?_of_mem_children {place child : Place} (member : child ∈ place.children) :
    place.child? child.target.index = some child := by
  obtain ⟨located, isChild, rfl⟩ := List.mem_map.mp member
  have isNode := (getElem?_of_mem_locatedFrom isChild).2
  rw [Place.child?, Node.child?]
  exact congrArg (Option.map _) isNode

mutual

theorem eq_or_mem_children_of_mem_placesFrom {ancestors : List Located} {index : Nat}
    {node : Node} {place : Place} (member : place ∈ placesFrom ancestors index node) :
    place = ⟨⟨node, index⟩, ancestors⟩ ∨ ∃ parent : Place, place ∈ parent.children := by
  obtain ⟨kind, location, span, attributes, children⟩ := node
  rw [placesFrom, List.mem_cons] at member
  rcases member with isFirst | below
  · exact .inl isFirst
  · rcases mem_map_or_mem_children_of_mem_placesFromAll below with isChild | deeper
    · exact .inr ⟨⟨⟨⟨kind, location, span, attributes, children⟩, index⟩, ancestors⟩, isChild⟩
    · exact .inr deeper

theorem mem_map_or_mem_children_of_mem_placesFromAll {ancestors : List Located} {index : Nat}
    {children : List Node} {place : Place}
    (member : place ∈ placesFromAll ancestors index children) :
    place ∈ (locatedFrom index children).map (⟨·, ancestors⟩) ∨
      ∃ parent : Place, place ∈ parent.children := by
  cases children with
  | nil => cases member
  | cons child rest =>
      rw [placesFromAll, List.mem_append] at member
      rw [locatedFrom, List.map_cons, List.mem_cons]
      rcases member with inChild | inRest
      · exact (eq_or_mem_children_of_mem_placesFrom inChild).imp_left .inl
      · exact (mem_map_or_mem_children_of_mem_placesFromAll inRest).imp_left .inr

end

theorem mem_children_of_parent? {root : Node} {place parent : Place}
    (member : place ∈ places root) (around : place.parent? = some parent) :
    place ∈ parent.children := by
  rcases eq_or_mem_children_of_mem_placesFrom member with rfl | ⟨other, isChild⟩
  · cases around
  · rw [parent?_of_mem_children isChild, Option.some.injEq] at around
    exact around ▸ isChild

theorem eq_root_of_parent? {root : Node} {place : Place}
    (member : place ∈ places root) (around : place.parent? = none) : place = ⟨⟨root, 0⟩, []⟩ := by
  rcases eq_or_mem_children_of_mem_placesFrom member with isRoot | ⟨other, isChild⟩
  · exact isRoot
  · rw [parent?_of_mem_children isChild] at around
    cases around

theorem mem_enclosing_of_mem_inside {place around : Place} (member : place ∈ around.inside) :
    around ∈ place.enclosing :=
  placesOf_subset_enclosingAll member List.mem_cons_self

theorem length_ancestors_of_mem_enclosing {place around : Place}
    (encloses : around ∈ place.enclosing) : around.ancestors.length < place.ancestors.length := by
  obtain ⟨target, ancestors⟩ := place
  rw [Place.enclosing] at encloses
  change _ < ancestors.length
  induction ancestors with
  | nil => cases encloses
  | cons parent outer ih =>
      rw [placesOf, List.mem_cons] at encloses
      rcases encloses with rfl | farther
      · exact Nat.lt_succ_self _
      · exact Nat.lt_succ_of_lt (ih farther)

theorem notMem_enclosing_of_sibling {place child other : Place} (isChild : child ∈ place.children)
    (sibling : other.parent? = some place) : child ∉ other.enclosing := by
  intro encloses
  have around := enclosing_of_parent? (parent?_of_mem_children isChild)
  have below := length_ancestors_of_mem_enclosing (around ▸ List.mem_cons_self)
  rw [enclosing_of_parent? sibling, List.mem_cons] at encloses
  rcases encloses with rfl | farther
  · exact Nat.lt_irrefl _ below
  · exact Nat.lt_asymm below (length_ancestors_of_mem_enclosing farther)

/-! ## Another node in a place -/

/-- What a node is part of, given its index and the nodes around it. -/
def rebuilt (index : Nat) (node : Node) : List Located → Node
  | [] => node
  | parent :: outer => rebuilt parent.index (parent.node.setChild index node) outer

def Place.replacing (place : Place) (node : Node) : Node :=
  rebuilt place.target.index node place.ancestors

theorem replacing_node {root : Node} {place : Place} (member : place ∈ places root) :
    place.replacing place.node = root := by
  obtain ⟨target, ancestors⟩ := place
  induction ancestors generalizing target with
  | nil => exact congrArg Place.node (eq_root_of_parent? member rfl)
  | cons parent outer ih =>
      obtain ⟨node, isChild, same⟩ := Option.map_eq_some_iff.mp
        (child?_of_mem_children (mem_children_of_parent? member rfl))
      obtain rfl : node = target.node := congrArg Place.node same
      rw [Place.replacing, rebuilt]
      exact (congrArg (rebuilt parent.index · outer) (Node.setChild_child? isChild)).trans
        (ih parent (enclosing_subset_places member List.mem_cons_self))

end Lexical

end ScriptLint
