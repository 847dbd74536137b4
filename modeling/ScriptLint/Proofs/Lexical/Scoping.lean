import ScriptLint.Lexical.Tracker
import ScriptLint.Proofs.Engine.Traversal
import ScriptLint.Syntax.Build

/-!
# Hoisted lexical scoping

Which declaration a use of a name refers to can be read off a tree without walking
over it.  The nodes around a declaration determine the scope in which it binds its
name; the first declaration of a name in a scope counts for the whole scope; and a use
refers to the innermost scope around it in which its name is declared anywhere, be it
after the use.

A scope is named by its address.  No two nodes of a tree have the same address, and
the scopes around a node are nodes of its tree.
-/

namespace ScriptLint.Lexical

/-! ## Places -/

/-- A node of a tree, with the nodes around it, the nearest first. -/
structure Place where
  target : Located
  ancestors : List Located

def placesOf : List Located → List Place
  | [] => []
  | target :: ancestors => ⟨target, ancestors⟩ :: placesOf ancestors

mutual

def placesFrom (ancestors : List Located) (index : Nat) : Node → List Place
  | ⟨kind, location, span, attributes, children⟩ =>
      let target : Located := ⟨⟨kind, location, span, attributes, children⟩, index⟩
      ⟨target, ancestors⟩ :: placesFromAll (target :: ancestors) 0 children

def placesFromAll (ancestors : List Located) (index : Nat) : List Node → List Place
  | [] => []
  | child :: rest =>
      placesFrom ancestors index child ++ placesFromAll ancestors (index + 1) rest

end

def places (root : Node) : List Place := placesFrom [] 0 root

namespace Place

def node (place : Place) : Node := place.target.node

def kind (place : Place) : NodeKind := place.node.kind

def address (place : Place) : Address :=
  place.target.index :: place.ancestors.map (·.index)

def enclosing (place : Place) : List Place := placesOf place.ancestors

def parent? (place : Place) : Option Place := place.enclosing.head?

/-! ## Scopes -/

def isFunctionScope (place : Place) : Bool :=
  place.kind = .program ∨ place.kind = .functionDeclaration

def isScope (place : Place) : Bool :=
  place.isFunctionScope ∨
    place.kind = .blockStatement ∧ place.parent?.map kind ≠ some .functionDeclaration

def scopes (place : Place) : List Place := place.enclosing.filter isScope

/-! ## Declarations and uses -/

/-- The keyword of a declarator, which stands at the declaration around it. -/
def keyword (declarator : Place) : DeclarationKind :=
  (declarator.parent?.bind (·.node.attributes.declaration)).getD .var

def declaringScope? (place : Place) : Option Place :=
  place.parent?.bind fun parent =>
    match parent.kind with
    | .variableDeclarator =>
        match parent.keyword with
        | .var => place.enclosing.find? isFunctionScope
        | .let | .const => place.enclosing.find? isScope
    | .parameter => place.enclosing.find? isScope
    | .functionDeclaration => parent.enclosing.find? isScope
    | _ => none

def number (place : Place) : Nat :=
  match place.parent? with
  | none => 0
  | some parent =>
      ((parent.node.children.take place.target.index).filter (·.kind = place.kind)).length

def bindingKind? (place : Place) : Option BindingKind :=
  place.parent?.bind fun parent =>
    match parent.kind with
    | .variableDeclarator => some (.variable parent.keyword)
    | .parameter => some (.parameter parent.number)
    | .functionDeclaration => some .function
    | _ => none

def isInitialized (place : Place) : Bool :=
  place.parent?.all fun parent =>
    match parent.kind with
    | .variableDeclarator => 1 < parent.node.children.length
    | _ => true

def binding? (place : Place) : Option Binding := do
  let name ← place.node.nameInRole? .declaration
  let kind ← place.bindingKind?
  let scope ← place.declaringScope?
  some ⟨name, kind, scope.address, place.node.startPosition, place.isInitialized⟩

def use? (place : Place) : Option Reference := do
  let role ← place.node.attributes.role
  let name ← place.node.nameInRole? role
  if (role = .reference ∨ role = .assignment) ∧ place.scopes ≠ [] then
    some ⟨name, role, place.scopes.map address, place.node.startPosition⟩
  else none

end Place

def Binding.isFor (scope : Address) (name : String) (binding : Binding) : Bool :=
  binding.scope = scope ∧ binding.name = name

def declarations (root : Node) : List Binding := (places root).filterMap Place.binding?

def uses (root : Node) : List Reference := (places root).filterMap Place.use?

/-- What a name is bound to in a scope: its first declaration there, wherever it stands. -/
def hoisted? (root : Node) (scope : Address) (name : String) : Option Binding :=
  (declarations root).find? (·.isFor scope name)

/-- What a use refers to: the binding in the innermost scope around it that has one. -/
def target? (root : Node) (use : Reference) : Option Binding :=
  use.scopes.findSome? fun scope => hoisted? root scope use.name

-- The variable belongs to the function, though a block inside holds its declaration
-- and the assignment comes before it.
example :
    let root := Build.node .program .empty
      [Build.function "f" [] [Build.identifier "x" .assignment,
        Build.block [Build.singleVariable .var "x" none]]]
    (uses root).map (fun use => (target? root use).map (·.scope)) = [some [0, 0]] := by
  decide

/-! ## Addresses -/

mutual

theorem mem_visits_of_mem_placesFrom {ancestors : List Located} {index : Nat} {node : Node}
    {place : Place} (member : place ∈ placesFrom ancestors index node) :
    ⟨.enter, place.target, place.ancestors⟩ ∈ visits ancestors index node := by
  obtain ⟨kind, location, span, attributes, children⟩ := node
  rw [placesFrom, List.mem_cons] at member
  rw [visits, List.mem_cons, List.mem_append]
  rcases member with rfl | below
  · exact .inl rfl
  · exact .inr (.inl (mem_visitsAll_of_mem_placesFromAll below))

theorem mem_visitsAll_of_mem_placesFromAll {ancestors : List Located} {index : Nat}
    {children : List Node} {place : Place}
    (member : place ∈ placesFromAll ancestors index children) :
    ⟨.enter, place.target, place.ancestors⟩ ∈ visitsAll ancestors index children := by
  cases children with
  | nil => cases member
  | cons child rest =>
      rw [visitsAll, List.mem_append]
      rcases List.mem_append.mp member with inChild | inRest
      · exact .inl (mem_visits_of_mem_placesFrom inChild)
      · exact .inr (mem_visitsAll_of_mem_placesFromAll inRest)

end

theorem eq_of_address_eq {root : Node} {first second : Place} (left : first ∈ places root)
    (right : second ∈ places root) (same : first.address = second.address) : first = second := by
  have ofFirst := descend?_of_mem_visits (mem_visits_of_mem_placesFrom left)
  have ofSecond := descend?_of_mem_visits (mem_visits_of_mem_placesFrom right)
  have positions (place : Place) :
      Visit.address ⟨.enter, place.target, place.ancestors⟩ = place.address.reverse.tail := rfl
  rw [positions, same, ← positions, ofSecond, Option.some.injEq, Prod.mk.injEq] at ofFirst
  obtain ⟨target, ancestors⟩ := first
  obtain ⟨rfl, rfl⟩ := ofFirst
  rfl

mutual

theorem mem_of_mem_enclosing {ancestors : List Located} {index : Nat} {node : Node}
    {place around : Place} (member : place ∈ placesFrom ancestors index node)
    (encloses : around ∈ place.enclosing) :
    around ∈ placesFrom ancestors index node ∨ around ∈ placesOf ancestors := by
  obtain ⟨kind, location, span, attributes, children⟩ := node
  rw [placesFrom, List.mem_cons] at member ⊢
  rcases member with rfl | below
  · exact .inr encloses
  · rcases mem_of_mem_enclosingAll below encloses with inside | outside
    · exact .inl (.inr inside)
    · rcases List.mem_cons.mp outside with rfl | outside
      · exact .inl (.inl rfl)
      · exact .inr outside

theorem mem_of_mem_enclosingAll {ancestors : List Located} {index : Nat} {children : List Node}
    {place around : Place} (member : place ∈ placesFromAll ancestors index children)
    (encloses : around ∈ place.enclosing) :
    around ∈ placesFromAll ancestors index children ∨ around ∈ placesOf ancestors := by
  cases children with
  | nil => cases member
  | cons child rest =>
      rw [placesFromAll, List.mem_append]
      rcases List.mem_append.mp member with inChild | inRest
      · exact (mem_of_mem_enclosing inChild encloses).imp_left .inl
      · exact (mem_of_mem_enclosingAll inRest encloses).imp_left .inr

end

theorem enclosing_subset_places {root : Node} {place : Place} (member : place ∈ places root) :
    place.enclosing ⊆ places root := by
  intro around encloses
  rcases mem_of_mem_enclosing member encloses with inside | outside
  · exact inside
  · cases outside

end ScriptLint.Lexical
