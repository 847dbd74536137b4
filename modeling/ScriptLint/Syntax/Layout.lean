import ScriptLint.Syntax.Node

/-!
# Laying out trees

Gives positions to a tree that has none.  Statement `n` of a program stands on
line `n`.  On a line every node starts one column after the previous node in
preorder started or ended, a leaf is as wide as its text, and every other node
ends one column after its last child.  Offsets give each line a thousand
columns.
-/

namespace ScriptLint.Layout

def leafWidth (attributes : Attributes) : Nat :=
  match attributes.name.or attributes.raw with
  | some text => max text.length 1
  | none => 1

def offset (place : LineColumn) : Nat := (place.line - 1) * 1000 + (place.column - 1)

def placed (kind : NodeKind) (attributes : Attributes) (children : List Node)
    (line start stop : Nat) : Node :=
  ⟨kind, ⟨⟨line, start⟩, ⟨line, stop⟩⟩, ⟨offset ⟨line, start⟩, offset ⟨line, stop⟩⟩, attributes,
    children⟩

mutual

def node (line column : Nat) : Node → Node × Nat
  | ⟨kind, _, _, attributes, []⟩ =>
      let stop := column + leafWidth attributes
      (placed kind attributes [] line column stop, stop)
  | ⟨kind, _, _, attributes, child :: rest⟩ =>
      let (children, cursor) := nodes line column (child :: rest)
      (placed kind attributes children line column (cursor + 1), cursor + 1)

def nodes (line cursor : Nat) : List Node → List Node × Nat
  | [] => ([], cursor)
  | child :: rest =>
      let (first, stop) := node line (cursor + 1) child
      let (others, last) := nodes line stop rest
      (first :: others, last)

end

/-- Lays out statements, one to a line, and gives the place where the last one ends. -/
def statements (line : Nat) (last : LineColumn) : List Node → List Node × LineColumn
  | [] => ([], last)
  | statement :: rest =>
      let (first, stop) := node line 1 statement
      let (others, final) := statements (line + 1) ⟨line, stop⟩ rest
      (first :: others, final)

def program (body : List Node) : Node :=
  let (children, last) := statements 1 ⟨1, 1⟩ body
  ⟨.program, ⟨⟨1, 1⟩, last⟩, ⟨0, offset last⟩, .empty, children⟩

def tree (path : String) (body : List Node) : SyntaxTree := ⟨RepoPath.of path, program body⟩

end ScriptLint.Layout
