import ScriptLint.Syntax.Node

/-!
# Building trees

Constructors for well-formed nodes without positions.
-/

namespace ScriptLint.Build

def node (kind : NodeKind) (attributes : Attributes) (children : List Node) : Node :=
  ⟨kind, .zero, .zero, attributes, children⟩

/-! ## Leaves -/

def identifier (name : String) (role : IdentifierRole) : Node :=
  node .identifier { Attributes.empty with name := some name, role := some role } []

def declaration (name : String) : Node := identifier name .declaration

def property (name : String) : Node := identifier name .property

def literal (kind : NodeKind) (raw : String) : Node :=
  node kind { Attributes.empty with raw := some raw } []

def template (raw : String) (expressions : List Node) : Node :=
  node .templateLiteral { Attributes.empty with raw := some raw } expressions

/-! ## Expressions -/

def operation (kind : NodeKind) (operator : String) (operands : List Node) : Node :=
  node kind { Attributes.empty with operator := some operator } operands

def binary (operator : String) (left right : Node) : Node :=
  operation .binaryExpression operator [left, right]

def assignment (target value : Node) : Node :=
  operation .assignmentExpression "=" [target, value]

def update (target : Node) : Node := operation .updateExpression "++" [target]

def call (callee : Node) (arguments : List Node) : Node :=
  node .callExpression .empty (callee :: arguments)

def member (object : Node) (name : String) : Node :=
  node .memberExpression .empty [object, property name]

/-! ## Statements -/

def declarator (name : String) (value : Option Node) : Node :=
  node .variableDeclarator .empty (declaration name :: value.toList)

def variableDeclaration (kind : DeclarationKind) (declarators : List Node)
    (terminated : Bool) : Node :=
  node .variableDeclaration
    { Attributes.empty with declaration := some kind, terminated := some terminated } declarators

def singleVariable (kind : DeclarationKind) (name : String) (value : Option Node) : Node :=
  variableDeclaration kind [declarator name value] true

def statement (kind : NodeKind) (children : List Node) (terminated : Bool) : Node :=
  node kind { Attributes.empty with terminated := some terminated } children

def block (statements : List Node) : Node := node .blockStatement .empty statements

def parameter (name : String) : Node := node .parameter .empty [declaration name]

def function (name : String) (parameters : List String) (body : List Node) : Node :=
  node .functionDeclaration .empty
    ([declaration name] ++ parameters.map parameter ++ [block body])

end ScriptLint.Build
