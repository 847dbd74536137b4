import ScriptLint.Rule.Basic

/-!
# Rules on statements

Debugger statements and the keyword of variable declarations.
-/

namespace ScriptLint.Rules

/-! ## Debugger statements -/

namespace NoDebugger

def finding (node : Node) : Finding :=
  ⟨"debugger_statement", "Unexpected 'debugger' statement.", node.startPosition⟩

def rule : Rule where
  name := "no-debugger"
  description := "Disallow the use of debugger"
  recommended := true
  aliases := []
  interests := [.debuggerStatement]
  validate options := RuleOptions.atMost options 0
  State := Unit
  create options := Rule.created (RuleOptions.atMost options 0) id
  enter state _ node := .report state [finding node]
  exit state _ _ := .quiet state
  finish state _ := .quiet state

end NoDebugger

/-! ## Variable declarations -/

namespace NoVar

def findings (context : Context) (node : Node) : List Finding :=
  if context.capabilities.syntaxVersion.supportsBlockBindings ∧
      node.attributes.declaration = some .var then
    [⟨"var_declaration", "Unexpected var, use let or const instead.", node.startPosition⟩]
  else []

def rule : Rule where
  name := "no-var"
  description := "Require let or const instead of var"
  recommended := false
  aliases := []
  interests := [.variableDeclaration]
  validate options := RuleOptions.atMost options 0
  State := Unit
  create options := Rule.created (RuleOptions.atMost options 0) id
  enter state context node := .report state (findings context node)
  exit state _ _ := .quiet state
  finish state _ := .quiet state

end NoVar

end ScriptLint.Rules
