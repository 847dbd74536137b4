import ScriptLint.Rule.Basic
import ScriptLint.Value.Record

/-!
# Rules on expressions

Equality operators and the concatenation of strings.
-/

namespace ScriptLint.Rules

/-! ## Equality operators -/

namespace StrictEquality

inductive Mode where
  | always
  | smart
  deriving DecidableEq, Repr

def Mode.decode : Decoder Mode := Decoder.keyword [("always", .always), ("smart", .smart)]

inductive NullMode where
  | always
  | never
  | ignore
  deriving DecidableEq, Repr

def NullMode.decode : Decoder NullMode :=
  Decoder.keyword [("always", .always), ("never", .never), ("ignore", .ignore)]

def decodeExtra : Decoder NullMode :=
  Record.decodeStrict "Extra" (Record.defaulted "null" NullMode.decode .always)

structure Settings where
  mode : Mode
  nullMode : NullMode
  deriving DecidableEq, Repr

/-- The second option is read before the first. -/
def settings (options : List Value) : Except OptionsError Settings := do
  RuleOptions.atMost options 2
  let nullMode ← RuleOptions.slot options 1 decodeExtra .always
  let mode ← RuleOptions.slot options 0 Mode.decode .always
  return ⟨mode, nullMode⟩

def looseAccepted (settings : Settings) (left right : Node) : Bool :=
  let nullOperand := left.kind = .nullLiteral || right.kind = .nullLiteral
  match settings.mode with
  | .smart => nullOperand || (left.kind.isLiteral && right.kind.isLiteral)
  | .always => nullOperand && settings.nullMode ≠ .always

def strictAccepted (settings : Settings) (left right : Node) : Bool :=
  let nullOperand := left.kind = .nullLiteral || right.kind = .nullLiteral
  !(settings.mode = .always && settings.nullMode = .never && nullOperand)

/-- The operator that should stand in place of one, if that is not acceptable. -/
def expected? (settings : Settings) (operator : String) (left right : Node) : Option String :=
  if operator = "==" then if looseAccepted settings left right then none else some "==="
  else if operator = "!=" then if looseAccepted settings left right then none else some "!=="
  else if operator = "===" then if strictAccepted settings left right then none else some "=="
  else if operator = "!==" then if strictAccepted settings left right then none else some "!="
  else none

def findings (settings : Settings) (node : Node) : List Finding :=
  match node.operator?, node.child? 0, node.child? 1 with
  | some operator, some left, some right =>
      match expected? settings operator left right with
      | none => []
      | some expected =>
          [⟨"loose_equality", s!"Expected '{expected}' and instead saw '{operator}'.",
            node.startPosition⟩]
  | _, _, _ => []

def rule : Rule where
  name := "eqeqeq"
  description := "Require === and !=="
  recommended := false
  aliases := []
  interests := [.binaryExpression]
  validate options := Rule.validated (settings options)
  State := Settings
  create options := Rule.created (settings options) id
  enter settings _ node := .report settings (findings settings node)
  exit settings _ _ := .quiet settings
  finish settings _ := .quiet settings

end StrictEquality

/-! ## String concatenation -/

namespace PreferTemplate

def isConcatenation (node : Node) : Bool :=
  node.kind = .binaryExpression && node.operator? = some "+"

mutual

def operands : Node → List Node
  | ⟨kind, location, span, attributes, children⟩ =>
      let node : Node := ⟨kind, location, span, attributes, children⟩
      if isConcatenation node then operandsAll children else [node]

def operandsAll : List Node → List Node
  | [] => []
  | child :: rest => operands child ++ operandsAll rest

end

def isMixed (operands : List Node) : Bool :=
  operands.any (·.kind = .stringLiteral) &&
    operands.any fun operand => operand.kind ≠ .stringLiteral && operand.kind ≠ .templateLiteral

/-- Whether a node is the outermost concatenation of its chain. -/
def isOutermost (context : Context) (node : Node) : Bool :=
  isConcatenation node && !(context.parent?.any fun parent => isConcatenation parent.node)

def findings (context : Context) (node : Node) : List Finding :=
  if isOutermost context node && context.capabilities.syntaxVersion.supportsBlockBindings &&
      isMixed (operands node) then
    [⟨"string_concatenation", "Unexpected string concatenation.", node.startPosition⟩]
  else []

def rule : Rule where
  name := "prefer-template"
  description := "Require template literals instead of string concatenation"
  recommended := false
  aliases := []
  interests := [.binaryExpression]
  validate options := RuleOptions.atMost options 0
  State := Unit
  create options := Rule.created (RuleOptions.atMost options 0) id
  enter state context node := .report state (findings context node)
  exit state _ _ := .quiet state
  finish state _ := .quiet state

end PreferTemplate

end ScriptLint.Rules
