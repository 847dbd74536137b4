import ScriptLint.Rule.Basic

/-!
# Tracking lexical scopes

A tracker follows a walk over a tree and notes which names are declared in which
scopes and where names are used.  A program, a function, and a block that is not
the body of a function are scopes.  Declarations count for the whole of their
scope, so uses are resolved only after the walk.

A scope is named by the address of its node: the positions among siblings from
the node up to the root.
-/

namespace ScriptLint.Lexical

abbrev Address := List Nat

inductive BindingKind where
  | variable (declaration : DeclarationKind)
  | function
  | parameter (index : Nat)
  deriving DecidableEq, Repr

structure Binding where
  name : String
  kind : BindingKind
  scope : Address
  position : Position
  initialized : Bool
  deriving DecidableEq, Repr

structure Reference where
  name : String
  role : IdentifierRole
  scopes : List Address
  position : Position
  deriving DecidableEq, Repr

structure OpenScope where
  address : Address
  isFunction : Bool
  deriving DecidableEq, Repr

structure Tracker where
  openScopes : List OpenScope
  firstScope : Option Address
  bindings : List Binding
  references : List Reference
  deriving DecidableEq, Repr

def interests : List NodeKind :=
  [.program, .functionDeclaration, .blockStatement, .identifier]

namespace Tracker

def start : Tracker := ⟨[], none, [], []⟩

/-! ## Scopes -/

/-- Whether a node opens a scope, and then whether it is that of a program or function. -/
def scopeOpened? (kind : NodeKind) (parentKind : Option NodeKind) : Option Bool :=
  match kind with
  | .program | .functionDeclaration => some true
  | .blockStatement => if parentKind = some .functionDeclaration then none else some false
  | _ => none

def addressOf (context : Context) : Address :=
  context.index :: context.ancestors.map (·.index)

def openScope (tracker : Tracker) (address : Address) (isFunction : Bool) : Tracker :=
  { tracker with
    openScopes := ⟨address, isFunction⟩ :: tracker.openScopes
    firstScope := tracker.firstScope.or (some address) }

def nearestFunction? (tracker : Tracker) : Option Address :=
  (tracker.openScopes.find? (·.isFunction)).map (·.address)

/-! ## Declarations -/

def declared? (bindings : List Binding) (scope : Address) (name : String) : Option Binding :=
  bindings.find? fun binding => binding.scope = scope ∧ binding.name = name

def parameterIndex (parameter : Located) (owner : Option Located) : Nat :=
  match owner with
  | none => 0
  | some owner =>
      ((owner.node.children.take parameter.index).filter (·.kind = .parameter)).length

def declarationOf? (tracker : Tracker) (context : Context) (scope : OpenScope)
    (outer : List OpenScope) : Option (BindingKind × Address × Bool) :=
  match context.parent? with
  | none => none
  | some parent =>
      match parent.node.kind with
      | .variableDeclarator =>
          let declaration :=
            (context.grandparent?.bind (·.node.attributes.declaration)).getD .var
          let initialized := 1 < parent.node.children.length
          match declaration with
          | .var =>
              tracker.nearestFunction?.map fun target => (.variable .var, target, initialized)
          | block => some (.variable block, scope.address, initialized)
      | .functionDeclaration =>
          outer.head?.map fun around => (.function, around.address, true)
      | .parameter =>
          let index := parameterIndex parent context.grandparent?
          some (.parameter index, scope.address, true)
      | _ => none

/-- Only the first declaration of a name in a scope binds it. -/
def declare (tracker : Tracker) (binding : Binding) : Tracker :=
  match declared? tracker.bindings binding.scope binding.name with
  | some _ => tracker
  | none => { tracker with bindings := tracker.bindings ++ [binding] }

/-! ## Steps -/

def identifier (tracker : Tracker) (context : Context) (node : Node) : Tracker :=
  match node.name?, node.attributes.role, tracker.openScopes with
  | some name, some .declaration, scope :: outer =>
      match tracker.declarationOf? context scope outer with
      | none => tracker
      | some (kind, target, initialized) =>
          tracker.declare ⟨name, kind, target, node.startPosition, initialized⟩
  | some _, some .property, _ => tracker
  | some name, some role, scope :: outer =>
      let scopes := (scope :: outer).map (·.address)
      { tracker with
        references := tracker.references ++ [⟨name, role, scopes, node.startPosition⟩] }
  | _, _, _ => tracker

def enter (tracker : Tracker) (context : Context) (node : Node) : Tracker :=
  match scopeOpened? node.kind context.parentKind? with
  | some isFunction => tracker.openScope (addressOf context) isFunction
  | none => if node.kind = .identifier then tracker.identifier context node else tracker

def exit (tracker : Tracker) (context : Context) (node : Node) : Tracker :=
  match scopeOpened? node.kind context.parentKind? with
  | some _ => { tracker with openScopes := tracker.openScopes.tail }
  | none => tracker

/-! ## Resolution -/

/-- The binding of a name in the innermost scope around its use that has one. -/
def lookup? (tracker : Tracker) (reference : Reference) : Option Binding :=
  reference.scopes.findSome? fun scope => declared? tracker.bindings scope reference.name

def resolutions (tracker : Tracker) : List (Reference × Option Binding) :=
  tracker.references.map fun reference => (reference, tracker.lookup? reference)

def unresolved (tracker : Tracker) : List Reference :=
  (tracker.resolutions.filter (·.2.isNone)).map (·.1)

def usesOf (resolutions : List (Reference × Option Binding)) (binding : Binding) :
    List Reference :=
  (resolutions.filter fun entry =>
    match entry.2 with
    | some target => target.scope = binding.scope ∧ target.name = binding.name
    | none => false).map (·.1)

end Tracker

structure Usage where
  binding : Binding
  uses : List Reference

namespace Usage

def isRead (usage : Usage) : Bool := usage.uses.any (·.role ≠ .assignment)

def isWritten (usage : Usage) : Bool := usage.uses.any (·.role = .assignment)

end Usage

def Tracker.usages (tracker : Tracker) : List Usage :=
  let resolutions := tracker.resolutions
  tracker.bindings.map fun binding => ⟨binding, Tracker.usesOf resolutions binding⟩

end ScriptLint.Lexical
