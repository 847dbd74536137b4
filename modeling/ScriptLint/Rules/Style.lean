import ScriptLint.Rule.Basic
import ScriptLint.Text.Lowercase
import ScriptLint.Value.Record

/-!
# Rules on how a program is written

Statement terminators, quote characters and the case of names.
-/

namespace ScriptLint.Rules

/-! ## Statement terminators -/

namespace StatementTerminator

inductive Mode where
  | always
  | never
  deriving DecidableEq, Repr

def Mode.decode : Decoder Mode := Decoder.keyword [("always", .always), ("never", .never)]

def settings (options : List Value) : Except OptionsError Mode := do
  RuleOptions.atMost options 1
  RuleOptions.slot options 0 Mode.decode .always

def findings (mode : Mode) (node : Node) : List Finding :=
  match mode, node.attributes.terminated with
  | .always, some false => [⟨"missing_terminator", "Missing semicolon.", node.endPosition⟩]
  | .never, some true => [⟨"extra_terminator", "Extra semicolon.", node.endPosition⟩]
  | _, _ => []

def rule : Rule where
  name := "statement-terminator"
  description := "Require or disallow statement terminators"
  recommended := false
  aliases := ["semi"]
  interests := [.variableDeclaration, .expressionStatement, .returnStatement, .debuggerStatement]
  validate options := Rule.validated (settings options)
  State := Mode
  create options := Rule.created (settings options) id
  enter mode _ node := .report mode (findings mode node)
  exit mode _ _ := .quiet mode
  finish mode _ := .quiet mode

end StatementTerminator

/-! ## Quote characters -/

namespace QuoteStyle

inductive Quote where
  | single
  | double
  | backtick
  deriving DecidableEq, Repr

namespace Quote

def character : Quote → Char
  | .single => Char.ofNat 0x27
  | .double => Char.ofNat 0x22
  | .backtick => Char.ofNat 0x60

def description : Quote → String
  | .single => "singlequote"
  | .double => "doublequote"
  | .backtick => "backtick"

def decode : Decoder Quote :=
  Decoder.keyword [("single", .single), ("double", .double), ("backtick", .backtick)]

end Quote

structure Exceptions where
  avoidEscape : Bool
  allowTemplateLiterals : Bool
  deriving DecidableEq, Repr

def Exceptions.decode : Decoder Exceptions :=
  Record.decodeStrict "Exceptions" <|
    Exceptions.mk <$> .defaulted "avoidEscape" Decoder.flag false
      <*> .defaulted "allowTemplateLiterals" Decoder.flag false

structure Settings where
  quote : Quote
  exceptions : Exceptions
  deriving DecidableEq, Repr

def settings (options : List Value) : Except OptionsError Settings := do
  RuleOptions.atMost options 2
  let quote ← RuleOptions.slot options 0 Quote.decode .double
  let exceptions ← RuleOptions.slot options 1 Exceptions.decode ⟨false, false⟩
  return ⟨quote, exceptions⟩

/--
The text between the first and the last character, if both are ASCII characters;
it is empty otherwise.
-/
def body (raw : List Char) : List Char :=
  match raw with
  | [] => []
  | first :: rest =>
      match rest.getLast? with
      | none => []
      | some last => if first.toNat < 128 ∧ last.toNat < 128 then rest.dropLast else []

/-- Whether a string literal has acceptable quotes; it must have a source text. -/
def stringAccepted (settings : Settings) (raw : String) : Except Failure Bool :=
  match raw.toList with
  | [] => .error (.internal "string literal without raw text")
  | first :: rest =>
      let preferred := settings.quote.character
      if first = preferred then .ok true
      else if settings.exceptions.avoidEscape ∧ settings.quote ≠ .backtick then
        .ok ((body (first :: rest)).contains preferred)
      else .ok false

/-- A template that embeds expressions or spans lines is always acceptable. -/
def templateAccepted (settings : Settings) (node : Node) : Bool :=
  settings.quote = .backtick || settings.exceptions.allowTemplateLiterals ||
    !node.children.isEmpty || (node.raw?.getD "").toList.contains '\n'

def accepted (settings : Settings) (node : Node) : Except Failure Bool :=
  match node.kind with
  | .stringLiteral => stringAccepted settings (node.raw?.getD "")
  | .templateLiteral => .ok (templateAccepted settings node)
  | _ => .ok true

def finding (settings : Settings) (node : Node) : Finding :=
  ⟨"wrong_quotes", s!"Strings must use {settings.quote.description}.", node.startPosition⟩

def enter (settings : Settings) (node : Node) : Outcome Settings :=
  (accepted settings node).map fun fine =>
    (settings, if fine then [] else [finding settings node])

def rule : Rule where
  name := "quote-style"
  description := "Enforce a consistent quote character for strings"
  recommended := false
  aliases := ["quotes"]
  interests := [.stringLiteral, .templateLiteral]
  validate options := Rule.validated (settings options)
  State := Settings
  create options := Rule.created (settings options) id
  enter settings _ node := enter settings node
  exit settings _ _ := .quiet settings
  finish settings _ := .quiet settings

end QuoteStyle

/-! ## Case of names -/

namespace Camelcase

inductive Properties where
  | always
  | never
  deriving DecidableEq, Repr

def Properties.decode : Decoder Properties :=
  Decoder.keyword [("always", .always), ("never", .never)]

structure RawSettings where
  properties : Properties
  allow : List String
  deriving DecidableEq, Repr

def RawSettings.decode : Decoder RawSettings :=
  Record.decodeStrict "RawSettings" <|
    RawSettings.mk <$> .defaulted "properties" Properties.decode .always
      <*> .defaulted "allow" (Decoder.list Decoder.text) []

structure Settings (engine : PatternEngine) where
  properties : Properties
  allow : List engine.Compiled

def settings (engine : PatternEngine) (options : List Value) :
    Except OptionsError (Settings engine) := do
  RuleOptions.atMost options 1
  let raw ← RuleOptions.slot options 0 RawSettings.decode ⟨.always, []⟩
  let allow ← RuleOptions.patterns engine 0 raw.allow
  return ⟨raw.properties, allow⟩

def core (name : List Char) : List Char :=
  ((name.dropWhile (· = '_')).reverse.dropWhile (· = '_')).reverse

/-- A name may have inner underscores only if it has no lowercase character. -/
def isCamelCase (name : String) : Bool :=
  let inner := core name.toList
  !inner.contains '_' || !inner.any Text.isLowercase

/-- Whether the property of a member access is what an assignment assigns to. -/
def isAssignedProperty (context : Context) : Bool :=
  match context.parent?, context.grandparent? with
  | some member, some assignment =>
      member.node.kind = .memberExpression && assignment.node.kind = .assignmentExpression &&
        member.index = 0
  | _, _ => false

section Findings

variable {engine : PatternEngine}

def isChecked (settings : Settings engine) (context : Context) (node : Node) : Bool :=
  match node.attributes.role with
  | some .declaration => true
  | some .property => settings.properties ≠ .never && isAssignedProperty context
  | _ => false

def findings (settings : Settings engine) (context : Context) (node : Node) : List Finding :=
  match node.name? with
  | none => []
  | some name =>
      if !isChecked settings context node || isCamelCase name ||
          settings.allow.any (engine.matchesIn · name) then []
      else [⟨"not_camel_case", s!"Identifier '{name}' is not in camel case.", node.startPosition⟩]

end Findings

def rule (engine : PatternEngine) : Rule where
  name := "camelcase"
  description := "Enforce camelcase naming"
  recommended := false
  aliases := []
  interests := [.identifier]
  validate options := Rule.validated (settings engine options)
  State := Settings engine
  create options := Rule.created (settings engine options) id
  enter settings context node := .report settings (findings settings context node)
  exit settings _ _ := .quiet settings
  finish settings _ := .quiet settings

end Camelcase

end ScriptLint.Rules
