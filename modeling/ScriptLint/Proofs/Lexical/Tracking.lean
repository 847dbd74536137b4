import ScriptLint.Proofs.Lexical.Scoping

/-!
# Tracking finds the scoping of a tree

A tracker meets the nodes of a tree one by one and knows the tree only through a
stack of open scopes.  Inside any nodes, its stack holds the scopes among them, its
bindings are the first declarations among the nodes entered so far, and its
references are the uses among them: entering a node adds what the node declares
and uses, and leaving it restores the stack.  So after a walk over any tree, well
formed or not, the tracker has found the bindings, the uses and the targets of the
uses that the tree determines.
-/

namespace ScriptLint.Lexical

/-! ## Places in the eyes of a tracker -/

namespace Place

def context (place : Place) (surroundings : Surroundings) : Context :=
  ⟨surroundings, place.target.index, place.ancestors⟩

def opened (place : Place) : OpenScope := ⟨place.address, place.isFunctionScope⟩

theorem parent?_map_target (place : Place) :
    place.parent?.map (·.target) = place.ancestors.head? := by
  obtain ⟨target, ancestors⟩ := place
  cases ancestors <;> rfl

theorem parent?_map_kind (place : Place) :
    place.parent?.map kind = place.ancestors.head?.map (·.node.kind) := by
  rw [← parent?_map_target, Option.map_map]
  rfl

theorem keyword_eq (declarator : Place) :
    declarator.keyword =
      (declarator.ancestors.head?.bind (·.node.attributes.declaration)).getD .var := by
  rw [← parent?_map_target, Option.bind_map]
  rfl

theorem number_of_parameter {place : Place} (parameter : place.kind = .parameter) :
    place.number = Tracker.parameterIndex place.target place.ancestors.head? := by
  rw [← parent?_map_target, number, parameter]
  cases place.parent? <;> rfl

theorem isScope_of_isFunctionScope {place : Place} (function : place.isFunctionScope = true) :
    place.isScope = true := by
  simp [isScope, function]

theorem scopeOpened?_eq (place : Place) (surroundings : Surroundings) :
    Tracker.scopeOpened? place.kind (place.context surroundings).parentKind? =
      if place.isScope then some place.isFunctionScope else none := by
  have parentKind : (place.context surroundings).parentKind? = place.parent?.map kind :=
    (parent?_map_kind place).symm
  rw [parentKind, isScope, isFunctionScope]
  generalize place.parent?.map kind = around
  cases place.kind <;> simp [Tracker.scopeOpened?]

theorem kind_of_isScope {place : Place} (scope : place.isScope = true) :
    place.node.kind ≠ .identifier := by
  intro identifier
  simp [isScope, isFunctionScope, kind, identifier] at scope

theorem binding?_of_kind {place : Place} (kind : place.node.kind ≠ .identifier) :
    place.binding? = none := by
  simp [binding?, Node.nameInRole?, kind]

theorem use?_of_kind {place : Place} (kind : place.node.kind ≠ .identifier) :
    place.use? = none := by
  simp [use?, Node.nameInRole?, kind]

theorem scopes_of_ancestors (target : Located) {parent : Located} {outer : List Located} :
    scopes ⟨target, parent :: outer⟩ =
      if isScope ⟨parent, outer⟩ then ⟨parent, outer⟩ :: scopes ⟨parent, outer⟩
      else scopes ⟨parent, outer⟩ :=
  List.filter_cons

theorem declaringScope?_of_scopes_nil {place : Place} (outside : place.scopes = []) :
    place.declaringScope? = none := by
  have noScope : place.enclosing.find? isScope = none := by
    rw [← List.head?_filter, ← scopes, outside, List.head?_nil]
  have noFunction : place.enclosing.find? isFunctionScope = none := by
    rw [List.find?_eq_none] at noScope ⊢
    intro other member function
    exact noScope other member (isScope_of_isFunctionScope function)
  obtain ⟨target, ancestors⟩ := place
  cases ancestors with
  | nil => rfl
  | cons parent nodes =>
      have around : parent? ⟨target, parent :: nodes⟩ = some ⟨parent, nodes⟩ := rfl
      have outer : (enclosing ⟨parent, nodes⟩).find? isScope = none := by
        rw [List.find?_eq_none] at noScope ⊢
        exact fun other member => noScope other (List.mem_cons_of_mem _ member)
      rw [declaringScope?, around, Option.bind_some]
      split
      · split <;> assumption
      · exact noScope
      · exact outer
      · rfl

theorem head?_map_opened (place : Place) :
    (place.scopes.map opened).head? = (place.enclosing.find? isScope).map opened := by
  rw [List.head?_map, scopes, List.head?_filter]

end Place

/-! ## Identifiers -/

namespace Tracker

variable {tracker : Tracker} {place : Place}

theorem nearestFunction?_eq (follows : tracker.openScopes = place.scopes.map Place.opened) :
    tracker.nearestFunction? =
      (place.enclosing.find? Place.isFunctionScope).map Place.address := by
  have functions : (place.enclosing.filter Place.isScope).find? Place.isFunctionScope =
      place.enclosing.find? Place.isFunctionScope := by
    rw [List.find?_filter]
    congr 1
    funext other
    cases function : other.isFunctionScope with
    | false => simp
    | true => simp [Place.isScope_of_isFunctionScope function]
  rw [nearestFunction?, follows, List.find?_map, Option.map_map, ← functions]
  rfl

theorem declarationOf?_eq (surroundings : Surroundings) {scope : OpenScope}
    {outer : List OpenScope} (follows : tracker.openScopes = place.scopes.map Place.opened)
    (inside : tracker.openScopes = scope :: outer) :
    tracker.declarationOf? (place.context surroundings) scope outer =
      place.bindingKind?.bind fun kind => place.declaringScope?.map fun target =>
        (kind, target.address, place.isInitialized) := by
  have innermost : (place.enclosing.find? Place.isScope).map Place.opened = some scope := by
    rw [← Place.head?_map_opened, ← follows, inside, List.head?_cons]
  obtain ⟨around, found, rfl⟩ := Option.map_eq_some_iff.mp innermost
  have nearest := nearestFunction?_eq follows
  obtain ⟨target, ancestors⟩ := place
  cases ancestors with
  | nil => rfl
  | cons parent nodes =>
      have parent? : Place.parent? ⟨target, parent :: nodes⟩ = some ⟨parent, nodes⟩ := rfl
      have keyword := Place.keyword_eq ⟨parent, nodes⟩
      simp only [declarationOf?, Place.context, Context.parent?, Context.grandparent?,
        List.head?_cons, List.tail_cons, Place.bindingKind?, Place.declaringScope?, parent?,
        Option.bind_some, Place.isInitialized, Place.kind, Place.node, Option.all_some, ← keyword]
      cases kind : parent.node.kind with
      | variableDeclarator =>
          cases Place.keyword ⟨parent, nodes⟩ with
          | var =>
              simp only [nearest, Option.bind_some, Option.map_map]
              rfl
          | _ =>
              simp only [found, Option.bind_some, Option.map_some]
              rfl
      | parameter =>
          have isParameter : Place.kind ⟨parent, nodes⟩ = .parameter := kind
          have number := Place.number_of_parameter isParameter
          simp [found, number, Place.opened]
      | functionDeclaration =>
          -- The function is the innermost scope itself; its name belongs to the next one.
          have isScope : Place.isScope ⟨parent, nodes⟩ = true := by
            simp [Place.isScope, Place.isFunctionScope, Place.kind, Place.node, kind]
          have outside : outer = (Place.scopes ⟨parent, nodes⟩).map Place.opened := by
            rw [inside, Place.scopes_of_ancestors, if_pos isScope, List.map_cons] at follows
            exact (List.cons.inj follows).2
          rw [outside, Place.head?_map_opened, Option.map_map]
          rfl
      | _ => rfl

def note (tracker : Tracker) (place : Place) : Tracker :=
  { place.binding?.elim tracker tracker.declare with
    references := tracker.references ++ place.use?.toList }

theorem note_of_nothing (declaresNothing : place.binding? = none)
    (usesNothing : place.use? = none) : tracker.note place = tracker := by
  simp [note, declaresNothing, usesNothing]

theorem identifier_of_declaration (surroundings : Surroundings) {name : String}
    (declares : place.node.nameInRole? .declaration = some name)
    (follows : tracker.openScopes = place.scopes.map Place.opened) :
    tracker.identifier (place.context surroundings) place.node = tracker.note place := by
  obtain ⟨⟨-, role⟩, named⟩ := Option.ite_none_right_eq_some.mp declares
  have usesNothing : place.use? = none := by simp [Place.use?, role]
  simp only [identifier, named, role, note, usesNothing, Place.binding?, declares]
  cases inside : tracker.openScopes with
  | nil =>
      have outside : place.scopes = [] := List.map_eq_nil_iff.mp (follows.symm.trans inside)
      simp [Place.declaringScope?_of_scopes_nil outside]
  | cons scope outer =>
      simp only [declarationOf?_eq surroundings follows inside]
      cases place.bindingKind? <;> cases place.declaringScope? <;> simp [declare]
      split <;> simp

theorem identifier_of_use (surroundings : Surroundings) {name : String} {role : IdentifierRole}
    (uses : place.node.nameInRole? role = some name)
    (isUse : role = .reference ∨ role = .assignment)
    (follows : tracker.openScopes = place.scopes.map Place.opened) :
    tracker.identifier (place.context surroundings) place.node = tracker.note place := by
  obtain ⟨⟨-, hasRole⟩, named⟩ := Option.ite_none_right_eq_some.mp uses
  have declaresNothing : place.binding? = none := by
    have otherRole : role ≠ .declaration := by rcases isUse with rfl | rfl <;> decide
    simp [Place.binding?, Node.nameInRole?, hasRole, otherRole]
  have used : place.use? = if tracker.openScopes = [] then none else
      some ⟨name, role, tracker.openScopes.map (·.address), place.node.startPosition⟩ := by
    simp only [follows, List.map_map, List.map_eq_nil_iff]
    simp [Place.use?, hasRole, uses, isUse, Place.opened, Function.comp_def]
  simp only [identifier, named, hasRole, note, declaresNothing, used, Option.elim_none]
  obtain ⟨openScopes, firstScope, bindings, references⟩ := tracker
  cases openScopes <;> rcases isUse with rfl | rfl <;> simp

theorem identifier_of_neither (surroundings : Surroundings)
    (neither : place.node.name? = none ∨ place.node.attributes.role = none ∨
      place.node.attributes.role = some .property) :
    tracker.identifier (place.context surroundings) place.node = tracker.note place := by
  have declaresNothing : place.binding? = none := by
    rcases neither with unnamed | noRole | property
    · simp [Place.binding?, Node.nameInRole?, unnamed]
    · simp [Place.binding?, Node.nameInRole?, noRole]
    · simp [Place.binding?, Node.nameInRole?, property]
  have usesNothing : place.use? = none := by
    rcases neither with unnamed | noRole | property
    · simp [Place.use?, Node.nameInRole?, unnamed]
    · simp [Place.use?, noRole]
    · simp [Place.use?, property]
  rw [note_of_nothing declaresNothing usesNothing]
  rcases neither with unnamed | noRole | property
  · simp [identifier, unnamed]
  · simp [identifier, noRole]
  · cases named : place.node.name? <;> simp [identifier, named, property]

theorem identifier_eq_note (surroundings : Surroundings) (kind : place.kind = .identifier)
    (follows : tracker.openScopes = place.scopes.map Place.opened) :
    tracker.identifier (place.context surroundings) place.node = tracker.note place := by
  cases named : place.node.name? with
  | none => exact identifier_of_neither surroundings (.inl named)
  | some name =>
      cases hasRole : place.node.attributes.role with
      | none => exact identifier_of_neither surroundings (.inr (.inl hasRole))
      | some role =>
          have inRole : place.node.nameInRole? role = some name :=
            (if_pos ⟨kind, hasRole⟩).trans named
          cases role with
          | declaration => exact identifier_of_declaration surroundings inRole follows
          | reference => exact identifier_of_use surroundings inRole (.inl rfl) follows
          | assignment => exact identifier_of_use surroundings inRole (.inr rfl) follows
          | property => exact identifier_of_neither surroundings (.inr (.inr hasRole))

theorem note_openScopes (tracker : Tracker) (place : Place) :
    (tracker.note place).openScopes = tracker.openScopes := by
  cases declares : place.binding? with
  | none => simp [note, declares]
  | some binding =>
      simp only [note, declares, Option.elim_some, declare]
      split <;> rfl

theorem note_references (tracker : Tracker) (place : Place) :
    (tracker.note place).references = tracker.references ++ place.use?.toList := rfl

/-! ## Steps -/

def shown (surroundings : Surroundings) (tracker : Tracker) (event : Visit) : Tracker :=
  let context : Context := ⟨surroundings, event.target.index, event.ancestors⟩
  match event.phase with
  | .enter => tracker.enter context event.target.node
  | .exit => tracker.exit context event.target.node

theorem enter_eq (place : Place) (surroundings : Surroundings)
    (follows : tracker.openScopes = place.scopes.map Place.opened) :
    tracker.enter (place.context surroundings) place.node =
      if place.isScope then tracker.openScope place.address place.isFunctionScope
      else tracker.note place := by
  have opened := Place.scopeOpened?_eq place surroundings
  rw [Place.kind] at opened
  rw [enter, opened]
  by_cases isScope : place.isScope
  · simp only [isScope, if_true]
    rfl
  · simp only [isScope, if_false, Bool.false_eq_true]
    split
    · rename_i kind
      exact identifier_eq_note surroundings kind follows
    · rename_i kind
      exact (note_of_nothing (Place.binding?_of_kind kind) (Place.use?_of_kind kind)).symm

theorem exit_eq (tracker : Tracker) (place : Place) (surroundings : Surroundings) :
    tracker.exit (place.context surroundings) place.node =
      if place.isScope then { tracker with openScopes := tracker.openScopes.tail }
      else tracker := by
  have opened := Place.scopeOpened?_eq place surroundings
  rw [Place.kind] at opened
  rw [exit, opened]
  cases place.isScope <;> rfl

end Tracker

/-! ## First declarations -/

/-- The bindings are the first of the declarations of each name in each scope. -/
structure FirstOf (declarations bindings : List Binding) : Prop where
  inOrder : bindings.Sublist declarations
  distinct : bindings.Pairwise fun first second => ¬ first.isFor second.scope second.name
  lookup : ∀ scope name,
    bindings.find? (·.isFor scope name) = declarations.find? (·.isFor scope name)

theorem Tracker.declared?_eq_find? (bindings : List Binding) (scope : Address) (name : String) :
    declared? bindings scope name = bindings.find? (·.isFor scope name) := rfl

namespace FirstOf

variable {declarations : List Binding} {tracker : Tracker}

theorem declare (first : FirstOf declarations tracker.bindings) (binding : Binding) :
    FirstOf (declarations ++ [binding]) (tracker.declare binding).bindings := by
  cases known : Tracker.declared? tracker.bindings binding.scope binding.name with
  | some earlier =>
      have kept : tracker.declare binding = tracker := by simp only [Tracker.declare, known]
      rw [kept]
      refine ⟨first.inOrder.trans (List.sublist_append_left _ _), first.distinct, ?_⟩
      intro scope name
      rw [List.find?_append, ← first.lookup]
      by_cases same : binding.isFor scope name
      · obtain ⟨rfl, rfl⟩ : binding.scope = scope ∧ binding.name = name := by
          simpa [Binding.isFor] using same
        rw [← Tracker.declared?_eq_find?, known, Option.some_or]
      · simp [same]
  | none =>
      have added : (tracker.declare binding).bindings = tracker.bindings ++ [binding] := by
        simp only [Tracker.declare, known]
      rw [added]
      refine ⟨first.inOrder.append (.refl _), ?_, ?_⟩
      · rw [List.pairwise_append]
        refine ⟨first.distinct, List.pairwise_singleton _ _, ?_⟩
        intro earlier member later isLast same
        rw [List.mem_singleton.mp isLast] at same
        exact List.find?_eq_none.mp known earlier member same
      · intro scope name
        rw [List.find?_append, List.find?_append, first.lookup]

theorem note (first : FirstOf declarations tracker.bindings) (place : Place) :
    FirstOf (declarations ++ place.binding?.toList) (tracker.note place).bindings := by
  cases declares : place.binding? with
  | none => simpa [Tracker.note, declares] using first
  | some binding => simpa [Tracker.note, declares] using first.declare binding

theorem filter_isFor {bindings : List Binding} (first : FirstOf declarations bindings)
    (scope : Address) (name : String) :
    bindings.filter (·.isFor scope name) =
      (declarations.find? (·.isFor scope name)).toList := by
  rw [← first.lookup]
  have distinct := first.distinct
  clear first
  induction bindings with
  | nil => rfl
  | cons binding rest ih =>
      rw [List.pairwise_cons] at distinct
      by_cases same : binding.isFor scope name
      · have others : rest.filter (·.isFor scope name) = [] := by
          rw [List.filter_eq_nil_iff]
          intro other member alike
          simp only [Binding.isFor, decide_eq_true_eq] at same alike
          apply distinct.1 other member
          simp [Binding.isFor, same, alike]
        simp [same, others]
      · simp [same, ih distinct.2]

theorem eq_of_isFor {bindings : List Binding} (first : FirstOf declarations bindings)
    {binding other : Binding} (mine : binding ∈ bindings) (theirs : other ∈ bindings)
    (same : binding.isFor other.scope other.name = true) : binding = other := by
  have ofMine := List.mem_filter.mpr ⟨mine, same⟩
  have ofTheirs : other ∈ bindings.filter (·.isFor other.scope other.name) :=
    List.mem_filter.mpr ⟨theirs, by simp [Binding.isFor]⟩
  rw [first.filter_isFor, Option.mem_toList] at ofMine ofTheirs
  exact Option.some.inj (ofMine.symm.trans ofTheirs)

end FirstOf

/-! ## Following a walk -/

/-- A tracker inside the given nodes, after the given places were entered. -/
structure Follows (ancestors : List Located) (seen : List Place) (tracker : Tracker) : Prop where
  openScopes : tracker.openScopes = ((placesOf ancestors).filter Place.isScope).map Place.opened
  bindings : FirstOf (seen.filterMap Place.binding?) tracker.bindings
  references : tracker.references = seen.filterMap Place.use?

namespace Follows

variable {ancestors : List Located} {seen : List Place} {tracker : Tracker}

theorem start : Follows [] [] .start :=
  ⟨rfl, ⟨.refl _, .nil, fun _ _ => rfl⟩, rfl⟩

theorem filterMap_entered {α : Type} (read : Place → Option α) (seen : List Place)
    (place : Place) :
    (seen ++ [place]).filterMap read = seen.filterMap read ++ (read place).toList := by
  rw [List.filterMap_append, List.filterMap_cons]
  cases read place <;> rfl

theorem openScope (follows : Follows ancestors seen tracker) (target : Located)
    (isScope : Place.isScope ⟨target, ancestors⟩ = true) :
    Follows (target :: ancestors) (seen ++ [⟨target, ancestors⟩])
      (tracker.openScope (Place.address ⟨target, ancestors⟩)
        (Place.isFunctionScope ⟨target, ancestors⟩)) := by
  have kind := Place.kind_of_isScope isScope
  have declaresNothing := Place.binding?_of_kind kind
  have usesNothing := Place.use?_of_kind kind
  refine ⟨?_, ?_, ?_⟩
  · simp only [Tracker.openScope, placesOf, List.filter_cons, isScope, if_true, List.map_cons,
      follows.openScopes]
    rfl
  · rw [filterMap_entered, declaresNothing, Option.toList_none, List.append_nil]
    exact follows.bindings
  · rw [filterMap_entered, usesNothing, Option.toList_none, List.append_nil]
    exact follows.references

theorem note (follows : Follows ancestors seen tracker) (target : Located)
    (isScope : ¬ Place.isScope ⟨target, ancestors⟩ = true) :
    Follows (target :: ancestors) (seen ++ [⟨target, ancestors⟩])
      (tracker.note ⟨target, ancestors⟩) := by
  refine ⟨?_, ?_, ?_⟩
  · rw [Tracker.note_openScopes, placesOf, List.filter_cons, if_neg isScope]
    exact follows.openScopes
  · rw [filterMap_entered]
    exact follows.bindings.note ⟨target, ancestors⟩
  · rw [filterMap_entered, Tracker.note_references, follows.references]

theorem enter (follows : Follows ancestors seen tracker) (surroundings : Surroundings)
    (target : Located) :
    Follows (target :: ancestors) (seen ++ [⟨target, ancestors⟩])
      (tracker.shown surroundings ⟨.enter, target, ancestors⟩) := by
  have entered : tracker.shown surroundings ⟨.enter, target, ancestors⟩ = _ :=
    Tracker.enter_eq ⟨target, ancestors⟩ surroundings follows.openScopes
  rw [entered]
  split
  · exact follows.openScope target ‹_›
  · exact follows.note target ‹_›

theorem exit {target : Located} (follows : Follows (target :: ancestors) seen tracker)
    (surroundings : Surroundings) :
    Follows ancestors seen (tracker.shown surroundings ⟨.exit, target, ancestors⟩) := by
  have left : tracker.shown surroundings ⟨.exit, target, ancestors⟩ = _ :=
    Tracker.exit_eq tracker ⟨target, ancestors⟩ surroundings
  have inside := follows.openScopes
  rw [placesOf, List.filter_cons] at inside
  rw [left]
  split
  · rename_i isScope
    rw [if_pos isScope] at inside
    refine ⟨?_, follows.bindings, follows.references⟩
    simp only [inside, List.map_cons, List.tail_cons]
  · rename_i isScope
    rw [if_neg isScope] at inside
    exact ⟨inside, follows.bindings, follows.references⟩

end Follows

-- The induction is over the tree.  The nodes around and the places entered before are
-- arbitrary, since a child is walked over inside its parent and after its siblings.
mutual

theorem follows_traverse {ancestors : List Located} {seen : List Place} {tracker : Tracker}
    (follows : Follows ancestors seen tracker) (surroundings : Surroundings) (index : Nat)
    (node : Node) :
    Follows ancestors (seen ++ placesFrom ancestors index node)
      (traverse (Tracker.shown surroundings) ancestors index node tracker) := by
  obtain ⟨kind, location, span, attributes, children⟩ := node
  have entered := follows.enter surroundings
    ⟨⟨kind, location, span, attributes, children⟩, index⟩
  have below := follows_traverseAll entered surroundings 0 children
  rw [List.append_assoc] at below
  exact below.exit surroundings

theorem follows_traverseAll {ancestors : List Located} {seen : List Place} {tracker : Tracker}
    (follows : Follows ancestors seen tracker) (surroundings : Surroundings) (index : Nat)
    (children : List Node) :
    Follows ancestors (seen ++ placesFromAll ancestors index children)
      (traverseAll (Tracker.shown surroundings) ancestors index children tracker) := by
  cases children with
  | nil =>
      rw [placesFromAll, List.append_nil]
      exact follows
  | cons child rest =>
      have first := follows_traverse follows surroundings index child
      have others := follows_traverseAll first surroundings (index + 1) rest
      rw [List.append_assoc] at others
      exact others

end

def Tracker.ofTree (surroundings : Surroundings) (root : Node) : Tracker :=
  walkTree (shown surroundings) root start

theorem follows_ofTree (surroundings : Surroundings) (root : Node) :
    Follows [] (places root) (.ofTree surroundings root) := by
  rw [Tracker.ofTree, walkTree_eq_traverse]
  exact follows_traverse .start surroundings 0 root

theorem Tracker.shown_of_notMem_interests {event : Visit}
    (other : event.target.node.kind ∉ interests) (surroundings : Surroundings)
    (tracker : Tracker) : tracker.shown surroundings event = tracker := by
  obtain ⟨phase, target, ancestors⟩ := event
  simp only [interests, List.mem_cons, List.not_mem_nil, or_false, not_or] at other
  obtain ⟨notProgram, notFunction, notBlock, notIdentifier⟩ := other
  have opensNone (around : Option NodeKind) : scopeOpened? target.node.kind around = none := by
    rw [scopeOpened?] <;> assumption
  cases phase with
  | enter => simp [shown, enter, opensNone, notIdentifier]
  | exit => simp [shown, exit, opensNone]

theorem Tracker.walkTree_of_interests {kinds : List NodeKind} (enough : interests ⊆ kinds)
    (surroundings : Surroundings) (root : Node) :
    walkTree (fun tracker event =>
        if event.target.node.kind ∈ kinds then tracker.shown surroundings event else tracker)
      root start = ofTree surroundings root := by
  rw [ofTree]
  congr 1
  funext tracker event
  split
  · rfl
  · rename_i unshown
    exact (shown_of_notMem_interests (fun shown => unshown (enough shown)) _ _).symm

/-! ## What a tracker finds -/

namespace Usage

def reads (usage : Usage) : Nat := usage.uses.countP (·.role ≠ .assignment)

def writes (usage : Usage) : Nat := usage.uses.countP (·.role = .assignment)

theorem isRead_iff (usage : Usage) : usage.isRead = true ↔ 0 < usage.reads := by
  simp [isRead, reads, List.countP_pos_iff]

theorem isWritten_iff (usage : Usage) : usage.isWritten = true ↔ 0 < usage.writes := by
  simp [isWritten, writes, List.countP_pos_iff]

end Usage

/-- A tracker has found what a tree determines about the names in it. -/
structure IsScopingOf (root : Node) (tracker : Tracker) : Prop where
  bindings : ∀ scope name,
    tracker.bindings.filter (·.isFor scope name) = (hoisted? root scope name).toList
  inOrder : tracker.bindings.Sublist (declarations root)
  resolutions : tracker.resolutions = (uses root).map fun use => (use, target? root use)
  unresolved : tracker.unresolved = (uses root).filter fun use => (target? root use).isNone
  usages : tracker.usages = tracker.bindings.map fun binding =>
    ⟨binding, (uses root).filter fun use => target? root use = some binding⟩
  reads : ∀ usage ∈ tracker.usages, usage.reads =
    (uses root).countP fun use => use.role = .reference ∧ target? root use = some usage.binding
  writes : ∀ usage ∈ tracker.usages, usage.writes =
    (uses root).countP fun use => use.role = .assignment ∧ target? root use = some usage.binding
  isRead : ∀ usage ∈ tracker.usages, usage.isRead = true ↔ 0 < usage.reads
  isWritten : ∀ usage ∈ tracker.usages, usage.isWritten = true ↔ 0 < usage.writes

namespace FirstOf

variable {root : Node} {tracker : Tracker}

theorem lookup?_eq (first : FirstOf (declarations root) tracker.bindings) (use : Reference) :
    tracker.lookup? use = target? root use := by
  simp only [Tracker.lookup?, target?, Tracker.declared?_eq_find?, first.lookup]
  rfl

theorem mem_of_target? (first : FirstOf (declarations root) tracker.bindings) {use : Reference}
    {binding : Binding} (found : target? root use = some binding) :
    binding ∈ tracker.bindings := by
  obtain ⟨scope, -, bound⟩ := List.exists_of_findSome?_eq_some found
  rw [hoisted?, ← first.lookup] at bound
  exact List.mem_of_find?_eq_some bound

theorem resolutions_eq (first : FirstOf (declarations root) tracker.bindings)
    (references : tracker.references = uses root) :
    tracker.resolutions = (uses root).map fun use => (use, target? root use) := by
  simp only [Tracker.resolutions, references, first.lookup?_eq]

theorem unresolved_eq (first : FirstOf (declarations root) tracker.bindings)
    (references : tracker.references = uses root) :
    tracker.unresolved = (uses root).filter fun use => (target? root use).isNone := by
  rw [Tracker.unresolved, first.resolutions_eq references, List.filter_map, List.map_map]
  exact List.map_id _

theorem usages_eq (first : FirstOf (declarations root) tracker.bindings)
    (references : tracker.references = uses root) :
    tracker.usages = tracker.bindings.map fun binding =>
      ⟨binding, (uses root).filter fun use => target? root use = some binding⟩ := by
  rw [Tracker.usages, first.resolutions_eq references]
  apply List.map_congr_left
  intro binding member
  rw [Tracker.usesOf, List.filter_map, List.map_map]
  congr 1
  refine (List.map_id _).trans (List.filter_congr ?_)
  intro use _
  simp only [Function.comp_apply]
  cases found : target? root use with
  | none => simp
  | some target =>
      have same := first.eq_of_isFor (first.mem_of_target? found) member
      simp only [Option.some.injEq, decide_eq_decide]
      constructor
      · intro alike
        exact same (by simpa [Binding.isFor] using alike)
      · rintro rfl
        exact ⟨rfl, rfl⟩

end FirstOf

theorem role_of_mem_uses {root : Node} {use : Reference} (member : use ∈ uses root) :
    use.role = .reference ∨ use.role = .assignment := by
  obtain ⟨place, -, used⟩ := List.mem_filterMap.mp member
  simp only [Place.use?, Option.bind_eq_bind, Option.bind_eq_some_iff,
    Option.ite_none_right_eq_some] at used
  obtain ⟨role, -, name, -, ⟨isUse, -⟩, same⟩ := used
  cases same
  exact isUse

theorem isScopingOf_of_follows {root : Node} {tracker : Tracker}
    (follows : Follows [] (places root) tracker) : IsScopingOf root tracker := by
  have first : FirstOf (declarations root) tracker.bindings := follows.bindings
  have references : tracker.references = uses root := follows.references
  have usages := first.usages_eq references
  refine ⟨first.filter_isFor, first.inOrder, first.resolutions_eq references,
    first.unresolved_eq references, usages, ?_, ?_, fun usage _ => usage.isRead_iff,
    fun usage _ => usage.isWritten_iff⟩
  · intro usage member
    rw [usages, List.mem_map] at member
    obtain ⟨binding, -, rfl⟩ := member
    rw [Usage.reads, List.countP_filter]
    apply List.countP_congr
    intro use used
    rcases role_of_mem_uses used with role | role <;> simp [role]
  · intro usage member
    rw [usages, List.mem_map] at member
    obtain ⟨binding, -, rfl⟩ := member
    rw [Usage.writes, List.countP_filter]
    apply List.countP_congr
    intro use _
    simp

/--
After a walk over any tree a tracker has found the scoping of the tree; the addresses
by which it names scopes are those of nodes of the tree and tell them apart.
-/
theorem Tracker.ofTree_finds_hoisted_scoping (surroundings : Surroundings) (root : Node) :
    IsScopingOf root (.ofTree surroundings root) ∧
      (∀ place ∈ places root, place.scopes ⊆ places root) ∧
      (∀ first ∈ places root, ∀ second ∈ places root,
        first.address = second.address → first = second) := by
  refine ⟨isScopingOf_of_follows (follows_ofTree surroundings root), ?_, ?_⟩
  · intro place member
    exact fun scope around => enclosing_subset_places member (List.mem_filter.mp around).1
  · intro first left second right
    exact eq_of_address_eq left right

end ScriptLint.Lexical
