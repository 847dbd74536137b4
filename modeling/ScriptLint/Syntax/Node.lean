import ScriptLint.Position
import ScriptLint.RepoPath

/-!
# Syntax trees

The tree of one source file, as a parser for scripts hands it over.  Every node
has a kind, a place in the source, some attributes and children; nothing
prevents a tree whose kinds, attributes and children do not fit together.

A well-formed tree follows this layout of children:

* a program and a block hold statements;
* a variable declaration holds declarators, and a declarator the declared
  identifier and possibly an initial value;
* a function holds its identifier, its parameters and its body block, and a
  parameter holds an identifier;
* expression and return statements hold at most one expression;
* binary and assignment expressions hold two operands, an update one;
* a call holds the callee and then the arguments, a member access the object and
  the identifier of the property, a template its embedded expressions.
-/

namespace ScriptLint

inductive NodeKind where
  | program
  | variableDeclaration
  | variableDeclarator
  | functionDeclaration
  | parameter
  | blockStatement
  | expressionStatement
  | returnStatement
  | debuggerStatement
  | identifier
  | stringLiteral
  | templateLiteral
  | numberLiteral
  | nullLiteral
  | binaryExpression
  | assignmentExpression
  | updateExpression
  | callExpression
  | memberExpression
  deriving DecidableEq, Repr

namespace NodeKind

def name : NodeKind → String
  | .program => "program"
  | .variableDeclaration => "variable_declaration"
  | .variableDeclarator => "variable_declarator"
  | .functionDeclaration => "function_declaration"
  | .parameter => "parameter"
  | .blockStatement => "block_statement"
  | .expressionStatement => "expression_statement"
  | .returnStatement => "return_statement"
  | .debuggerStatement => "debugger_statement"
  | .identifier => "identifier"
  | .stringLiteral => "string_literal"
  | .templateLiteral => "template_literal"
  | .numberLiteral => "number_literal"
  | .nullLiteral => "null_literal"
  | .binaryExpression => "binary_expression"
  | .assignmentExpression => "assignment_expression"
  | .updateExpression => "update_expression"
  | .callExpression => "call_expression"
  | .memberExpression => "member_expression"

def all : List NodeKind :=
  [.program, .variableDeclaration, .variableDeclarator, .functionDeclaration, .parameter,
    .blockStatement, .expressionStatement, .returnStatement, .debuggerStatement, .identifier,
    .stringLiteral, .templateLiteral, .numberLiteral, .nullLiteral, .binaryExpression,
    .assignmentExpression, .updateExpression, .callExpression, .memberExpression]

def isLiteral (kind : NodeKind) : Bool :=
  kind ∈ [.stringLiteral, .templateLiteral, .numberLiteral, .nullLiteral]

end NodeKind

inductive DeclarationKind where
  | var
  | let
  | const
  deriving DecidableEq, Repr

namespace DeclarationKind

def name : DeclarationKind → String
  | .var => "var"
  | .let => "let"
  | .const => "const"

def all : List DeclarationKind := [.var, .let, .const]

end DeclarationKind

inductive IdentifierRole where
  | declaration
  | reference
  | assignment
  | property
  deriving DecidableEq, Repr

namespace IdentifierRole

def name : IdentifierRole → String
  | .declaration => "declaration"
  | .reference => "reference"
  | .assignment => "assignment"
  | .property => "property"

def all : List IdentifierRole := [.declaration, .reference, .assignment, .property]

end IdentifierRole

structure SourceLocation where
  start : LineColumn
  stop : LineColumn
  deriving DecidableEq, Repr

def SourceLocation.zero : SourceLocation := ⟨.zero, .zero⟩

/-- What a node says beyond its kind.  `raw` is the source text of a literal, quotes included. -/
structure Attributes where
  name : Option String
  role : Option IdentifierRole
  declaration : Option DeclarationKind
  operator : Option String
  raw : Option String
  terminated : Option Bool
  deriving DecidableEq, Repr

def Attributes.empty : Attributes := ⟨none, none, none, none, none, none⟩

structure Node where
  kind : NodeKind
  location : SourceLocation
  span : Span
  attributes : Attributes
  children : List Node
  deriving Repr

structure SyntaxTree where
  path : RepoPath
  root : Node
  deriving Repr

namespace Node

def name? (node : Node) : Option String := node.attributes.name

def operator? (node : Node) : Option String := node.attributes.operator

def raw? (node : Node) : Option String := node.attributes.raw

def child? (node : Node) (index : Nat) : Option Node := node.children[index]?

def startPosition (node : Node) : Position := .of node.location.start node.span

/-- The empty position just after the last character. -/
def endPosition (node : Node) : Position := .of node.location.stop (.point node.span.stop)

def nameInRole? (node : Node) (role : IdentifierRole) : Option String :=
  if node.kind = .identifier ∧ node.attributes.role = some role then node.name? else none

mutual

def size : Node → Nat
  | ⟨_, _, _, _, children⟩ => sizeAll children + 1

def sizeAll : List Node → Nat
  | [] => 0
  | child :: rest => child.size + sizeAll rest

end

mutual

def preorder (depth : Nat) : Node → List (Nat × Node)
  | ⟨kind, location, span, attributes, children⟩ =>
      (depth, ⟨kind, location, span, attributes, children⟩) :: preorderAll (depth + 1) children

def preorderAll (depth : Nat) : List Node → List (Nat × Node)
  | [] => []
  | child :: rest => child.preorder depth ++ preorderAll depth rest

end

end Node

end ScriptLint
