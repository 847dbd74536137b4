import ScriptLint.Capabilities

/-!
# Environments

An environment pre-declares global names, each readable or also writable, and
may imply parser capabilities.  Environments are ordered by what they grant, and
`join` is the least one that grants as much as two given ones.
-/

namespace ScriptLint

inductive AccessMode where
  | readOnly
  | readWrite
  deriving DecidableEq, Repr

namespace AccessMode

def name : AccessMode → String
  | .readOnly => "read-only"
  | .readWrite => "read-write"

def all : List AccessMode := [.readOnly, .readWrite]

def join : AccessMode → AccessMode → AccessMode
  | .readOnly, other => other
  | .readWrite, _ => .readWrite

def decode : Decoder AccessMode := Decoder.keyword (all.map fun mode => (mode.name, mode))

def encode (mode : AccessMode) : Value := .string mode.name

end AccessMode

abbrev Globals := Dictionary AccessMode

namespace Globals

def joinMode : Option AccessMode → AccessMode → AccessMode
  | none, mode => mode
  | some current, mode => current.join mode

def grant (globals : Globals) (mode : AccessMode) (name : String) : Globals :=
  globals.insert name (joinMode (globals.get? name) mode)

def grantAll (globals : Globals) (mode : AccessMode) (names : List String) : Globals :=
  names.foldl (fun result name => grant result mode name) globals

def join (first second : Globals) : Globals := Dictionary.overlay joinMode first second

def encode (globals : Globals) : Value :=
  .object (globals.entries.map fun entry => (entry.1, entry.2.encode))

end Globals

/-- Combines two values that may be absent, absence being least. -/
def joinOption {α : Type} (join : α → α → α) : Option α → Option α → Option α
  | none, second => second
  | first, none => first
  | some first, some second => some (join first second)

structure Environment where
  globals : Globals
  syntaxVersion : Option SyntaxVersion
  sourceType : Option SourceType

namespace Environment

def empty : Environment := ⟨∅, none, none⟩

def readonly (environment : Environment) (names : List String) : Environment :=
  { environment with globals := environment.globals.grantAll .readOnly names }

def writable (environment : Environment) (names : List String) : Environment :=
  { environment with globals := environment.globals.grantAll .readWrite names }

def join (first second : Environment) : Environment where
  globals := first.globals.join second.globals
  syntaxVersion := joinOption SyntaxVersion.newer first.syntaxVersion second.syntaxVersion
  sourceType := joinOption SourceType.moreModular first.sourceType second.sourceType

end Environment

abbrev EnvironmentTable := Dictionary Environment

end ScriptLint
