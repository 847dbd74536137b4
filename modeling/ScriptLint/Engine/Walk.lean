import ScriptLint.Rule.Basic

/-!
# Walking a tree

A walk visits every node twice, on the way in and on the way out, children in
order between the two.  `walk` keeps what is left to do in a list of steps, so that
no depth of nesting can exhaust it; `visits` lists the visits by recursion on the
tree.
-/

namespace ScriptLint

universe u

inductive Phase where
  | enter
  | exit
  deriving DecidableEq, Repr

/-- A node met on a walk, with the nodes around it, the nearest first. -/
structure Visit where
  phase : Phase
  target : Located
  ancestors : List Located

/-! ## Steps -/

inductive Step where
  | enter (target : Located)
  | exit (target : Located)

def locatedFrom : Nat → List Node → List Located
  | _, [] => []
  | index, child :: rest => ⟨child, index⟩ :: locatedFrom (index + 1) rest

def Node.located (node : Node) : List Located := locatedFrom 0 node.children

def Step.weight : Step → Nat
  | .enter target => 2 * target.node.size
  | .exit _ => 1

def pendingWeight : List Step → Nat
  | [] => 0
  | step :: rest => step.weight + pendingWeight rest

theorem pendingWeight_append (first second : List Step) :
    pendingWeight (first ++ second) = pendingWeight first + pendingWeight second := by
  induction first with
  | nil => simp [pendingWeight]
  | cons step rest ih => simp [pendingWeight, ih, Nat.add_assoc]

theorem pendingWeight_locatedFrom (index : Nat) (children : List Node) :
    pendingWeight ((locatedFrom index children).map .enter) = 2 * Node.sizeAll children := by
  induction children generalizing index with
  | nil => rfl
  | cons child rest ih =>
      simp only [locatedFrom, List.map_cons, pendingWeight, ih, Step.weight, Node.sizeAll]
      omega

theorem Node.size_eq (node : Node) : node.size = Node.sizeAll node.children + 1 := by
  cases node
  rfl

/-- Does the pending steps one after the other, a node's children before its exit. -/
def walk {σ : Type u} (visit : σ → Visit → σ) (pending : List Step) (ancestors : List Located)
    (state : σ) : σ :=
  match pending with
  | [] => state
  | .enter target :: rest =>
      walk visit (target.node.located.map .enter ++ .exit target :: rest) (target :: ancestors)
        (visit state ⟨.enter, target, ancestors⟩)
  | .exit target :: rest =>
      walk visit rest ancestors.tail (visit state ⟨.exit, target, ancestors.tail⟩)
termination_by pendingWeight pending
decreasing_by
  · simp only [pendingWeight_append, pendingWeight, Node.located,
      pendingWeight_locatedFrom, Step.weight, Node.size_eq target.node]
    omega
  · simp only [pendingWeight, Step.weight]
    omega

def walkTree {σ : Type u} (visit : σ → Visit → σ) (root : Node) (state : σ) : σ :=
  walk visit [.enter ⟨root, 0⟩] [] state

/-! ## The visits of a walk -/

mutual

def visits (ancestors : List Located) (index : Nat) : Node → List Visit
  | ⟨kind, location, span, attributes, children⟩ =>
      let target : Located := ⟨⟨kind, location, span, attributes, children⟩, index⟩
      ⟨.enter, target, ancestors⟩ ::
        (visitsAll (target :: ancestors) 0 children ++ [⟨.exit, target, ancestors⟩])

def visitsAll (ancestors : List Located) (index : Nat) : List Node → List Visit
  | [] => []
  | child :: rest => visits ancestors index child ++ visitsAll ancestors (index + 1) rest

end

end ScriptLint
