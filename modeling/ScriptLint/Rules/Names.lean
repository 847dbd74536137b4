import ScriptLint.Lexical.Tracker
import ScriptLint.Value.Record

/-!
# Rules on the use of names

These rules track lexical scopes during the walk and report when it is over.
-/

namespace ScriptLint.Rules

open Lexical

/-! ## Undeclared names -/

namespace NoUndef

def findings (tracker : Tracker) (globals : Globals) : List Finding :=
  (tracker.unresolved.filter fun reference => !globals.contains reference.name).map
    fun reference =>
      ⟨"undefined_identifier", s!"'{reference.name}' is not defined.", reference.position⟩

def rule : Rule where
  name := "no-undef"
  description := "Disallow the use of undeclared variables"
  recommended := true
  aliases := []
  interests := Lexical.interests
  validate options := RuleOptions.atMost options 0
  State := Tracker
  create options := Rule.created (RuleOptions.atMost options 0) fun _ => .start
  enter tracker context node := .quiet (tracker.enter context node)
  exit tracker context node := .quiet (tracker.exit context node)
  finish tracker surroundings := .report tracker (findings tracker surroundings.globals)

end NoUndef

/-! ## Assignments to globals -/

namespace NoGlobalAssign

def decodeSettings : Decoder NameSet :=
  Record.decodeStrict "Settings" (Record.defaulted "exceptions" Decoder.names ∅)

def settings (options : List Value) : Except OptionsError NameSet := do
  RuleOptions.atMost options 1
  RuleOptions.slot options 0 decodeSettings ∅

structure State where
  exceptions : NameSet
  tracker : Tracker

def isFlagged (exceptions : NameSet) (globals : Globals) (reference : Reference) : Bool :=
  reference.role = .assignment && !exceptions.contains reference.name &&
    globals.get? reference.name = some .readOnly

def findings (state : State) (globals : Globals) : List Finding :=
  (state.tracker.unresolved.filter (isFlagged state.exceptions globals)).map fun reference =>
    ⟨"readonly_global", s!"Read-only global '{reference.name}' should not be modified.",
      reference.position⟩

def rule : Rule where
  name := "no-global-assign"
  description := "Disallow assignments to read-only globals"
  recommended := true
  aliases := []
  interests := Lexical.interests
  validate options := Rule.validated (settings options)
  State := State
  create options := Rule.created (settings options) fun exceptions => ⟨exceptions, .start⟩
  enter state context node :=
    .quiet { state with tracker := state.tracker.enter context node }
  exit state context node := .quiet { state with tracker := state.tracker.exit context node }
  finish state surroundings := .report state (findings state surroundings.globals)

end NoGlobalAssign

/-! ## Unused variables -/

namespace NoUnusedVars

inductive VariableMode where
  | all
  | local
  deriving DecidableEq, Repr

def VariableMode.decode : Decoder VariableMode :=
  Decoder.keyword [("all", .all), ("local", .local)]

inductive ParameterMode where
  | afterUsed
  | all
  | none
  deriving DecidableEq, Repr

def ParameterMode.decode : Decoder ParameterMode :=
  Decoder.keyword [("after-used", .afterUsed), ("all", .all), ("none", .none)]

structure RawSettings where
  variableMode : VariableMode
  parameterMode : ParameterMode
  variablesPattern : Option String
  parametersPattern : Option String
  deriving DecidableEq, Repr

def RawSettings.default : RawSettings := ⟨.all, .afterUsed, none, none⟩

def RawSettings.decode : Decoder RawSettings :=
  Record.decodeStrict "RawSettings" <|
    RawSettings.mk <$> .defaulted "vars" VariableMode.decode .all
      <*> .defaulted "args" ParameterMode.decode .afterUsed
      <*> .possible "varsIgnorePattern" Decoder.text
      <*> .possible "argsIgnorePattern" Decoder.text

structure Settings (engine : PatternEngine) where
  variableMode : VariableMode
  parameterMode : ParameterMode
  ignoredVariables : Option engine.Compiled
  ignoredParameters : Option engine.Compiled

def settings (engine : PatternEngine) (options : List Value) :
    Except OptionsError (Settings engine) := do
  RuleOptions.atMost options 1
  let raw ← RuleOptions.slot options 0 RawSettings.decode .default
  let ignoredVariables ← RuleOptions.optionalPattern engine 0 raw.variablesPattern
  let ignoredParameters ← RuleOptions.optionalPattern engine 0 raw.parametersPattern
  return ⟨raw.variableMode, raw.parameterMode, ignoredVariables, ignoredParameters⟩

structure State (engine : PatternEngine) where
  settings : Settings engine
  tracker : Tracker

section Findings

variable {engine : PatternEngine}

def ignores (pattern : Option engine.Compiled) (name : String) : Bool :=
  pattern.any (engine.matchesIn · name)

/-- Whether a usage is that of a parameter of a scope that is read and comes after another. -/
def isLaterRead (scope : Address) (index : Nat) (usage : Usage) : Bool :=
  usage.binding.scope = scope && usage.isRead &&
    match usage.binding.kind with
    | .parameter other => index < other
    | _ => false

def skipsParameter (settings : Settings engine) (usages : List Usage) (binding : Binding)
    (index : Nat) : Bool :=
  ignores settings.ignoredParameters binding.name ||
    match settings.parameterMode with
    | .none => true
    | .all => false
    | .afterUsed => usages.any (isLaterRead binding.scope index)

/-- Top-level bindings of a script may be used by other scripts. -/
def skipsVariable (settings : Settings engine) (firstScope : Option Address)
    (sourceType : SourceType) (binding : Binding) : Bool :=
  ignores settings.ignoredVariables binding.name ||
    (settings.variableMode = .local && firstScope = some binding.scope &&
      !sourceType.isModuleScoped)

def isSkipped (settings : Settings engine) (tracker : Tracker) (usages : List Usage)
    (sourceType : SourceType) (binding : Binding) : Bool :=
  match binding.kind with
  | .parameter index => skipsParameter settings usages binding index
  | _ => skipsVariable settings tracker.firstScope sourceType binding

def code : BindingKind → String
  | .parameter _ => "unused_parameter"
  | _ => "unused_variable"

def isAssigned (usage : Usage) : Bool :=
  usage.isWritten || (usage.binding.initialized &&
    match usage.binding.kind with
    | .variable _ => true
    | _ => false)

def message (usage : Usage) : String :=
  let name := usage.binding.name
  if isAssigned usage then s!"'{name}' is assigned a value but never used."
  else s!"'{name}' is defined but never used."

def findings (state : State engine) (sourceType : SourceType) : List Finding :=
  let usages := state.tracker.usages
  (usages.filter fun usage =>
    !usage.isRead &&
      !isSkipped state.settings state.tracker usages sourceType usage.binding).map fun usage =>
    ⟨code usage.binding.kind, message usage, usage.binding.position⟩

end Findings

def rule (engine : PatternEngine) : Rule where
  name := "no-unused-vars"
  description := "Disallow unused variables"
  recommended := true
  aliases := []
  interests := Lexical.interests
  validate options := Rule.validated (settings engine options)
  State := State engine
  create options := Rule.created (settings engine options) fun settings => ⟨settings, .start⟩
  enter state context node :=
    .quiet { state with tracker := state.tracker.enter context node }
  exit state context node := .quiet { state with tracker := state.tracker.exit context node }
  finish state surroundings :=
    .report state (findings state surroundings.capabilities.sourceType)

end NoUnusedVars

/-! ## Constant variables -/

namespace PreferConst

def isFlagged (usage : Usage) : Bool :=
  usage.binding.kind = .variable .let && usage.binding.initialized && !usage.isWritten

def findings (tracker : Tracker) (version : SyntaxVersion) : List Finding :=
  if version.supportsBlockBindings then
    (tracker.usages.filter isFlagged).map fun usage =>
      ⟨"never_reassigned", s!"'{usage.binding.name}' is never reassigned. Use 'const' instead.",
        usage.binding.position⟩
  else []

def rule : Rule where
  name := "prefer-const"
  description := "Require const for bindings that are never reassigned"
  recommended := false
  aliases := []
  interests := Lexical.interests
  validate options := RuleOptions.atMost options 0
  State := Tracker
  create options := Rule.created (RuleOptions.atMost options 0) fun _ => .start
  enter tracker context node := .quiet (tracker.enter context node)
  exit tracker context node := .quiet (tracker.exit context node)
  finish tracker surroundings :=
    .report tracker (findings tracker surroundings.capabilities.syntaxVersion)

end PreferConst

/-! ## The console -/

namespace NoConsole

def decodeSettings : Decoder NameSet :=
  Record.decodeStrict "Settings" (Record.defaulted "allow" Decoder.names ∅)

def settings (options : List Value) : Except OptionsError NameSet := do
  RuleOptions.atMost options 1
  RuleOptions.slot options 0 decodeSettings ∅

/-- A member access on a name `console`, with the number of the use of that name. -/
structure Candidate where
  reference : Nat
  position : Position
  deriving DecidableEq, Repr

structure State where
  allow : NameSet
  tracker : Tracker
  candidates : List Candidate

def isCandidate (allow : NameSet) (node : Node) : Bool :=
  (node.child? 0).bind (·.nameInRole? .reference) = some "console" &&
    !allow.contains (((node.child? 1).bind Node.name?).getD "")

/-- The object of a member access is the next use that the tracker will note. -/
def enter (state : State) (context : Context) (node : Node) : State :=
  if node.kind = .memberExpression then
    if isCandidate state.allow node then
      let candidate := ⟨state.tracker.references.length, node.startPosition⟩
      { state with candidates := state.candidates ++ [candidate] }
    else state
  else { state with tracker := state.tracker.enter context node }

def unresolvedNumbers (tracker : Tracker) : List Nat :=
  (tracker.resolutions.zipIdx.filter fun entry =>
    entry.1.2.isNone && entry.1.1.name = "console").map (·.2)

def findings (state : State) : List Finding :=
  let unresolved := unresolvedNumbers state.tracker
  (state.candidates.filter fun candidate => unresolved.contains candidate.reference).map
    fun candidate => ⟨"console_call", "Unexpected console statement.", candidate.position⟩

def rule : Rule where
  name := "no-console"
  description := "Disallow the use of console"
  recommended := false
  aliases := []
  interests := Lexical.interests ++ [.memberExpression]
  validate options := Rule.validated (settings options)
  State := State
  create options := Rule.created (settings options) fun allow => ⟨allow, .start, []⟩
  enter state context node := .quiet (enter state context node)
  exit state context node := .quiet { state with tracker := state.tracker.exit context node }
  finish state _ := .report state (findings state)

end NoConsole

end ScriptLint.Rules
