import ScriptLint.Value.Record

/-!
# Parser capabilities

Which edition of the language a source file is written in, and how its
top-level declarations are scoped.
-/

namespace ScriptLint

structure SyntaxVersion where
  year : Nat
  deriving DecidableEq, Repr

namespace SyntaxVersion

def third : SyntaxVersion := ⟨1999⟩

def fifth : SyntaxVersion := ⟨2009⟩

def latest : SyntaxVersion := ⟨2024⟩

/-- An edition by its number or, from the sixth edition on, by its year. -/
def ofNumber? (number : Nat) : Option SyntaxVersion :=
  if number = 3 then some third
  else if number = 5 then some fifth
  else if 6 ≤ number ∧ number ≤ 15 then some ⟨2009 + number⟩
  else if 2015 ≤ number ∧ number ≤ 2024 then some ⟨number⟩
  else none

def supportsBlockBindings (version : SyntaxVersion) : Bool := 2015 ≤ version.year

def newer (first second : SyntaxVersion) : SyntaxVersion :=
  if first.year < second.year then second else first

def decode : Decoder SyntaxVersion := fun value =>
  (Decoder.natural16 value).map SyntaxVersion.mk

def encode (version : SyntaxVersion) : Value := .int version.year

end SyntaxVersion

inductive SourceType where
  | script
  | commonJs
  | module
  deriving DecidableEq, Repr

namespace SourceType

def name : SourceType → String
  | .script => "script"
  | .commonJs => "commonjs"
  | .module => "module"

def all : List SourceType := [.script, .commonJs, .module]

def rank : SourceType → Nat
  | .script => 0
  | .commonJs => 1
  | .module => 2

def moreModular (first second : SourceType) : SourceType :=
  if first.rank < second.rank then second else first

def isModuleScoped (sourceType : SourceType) : Bool := sourceType ≠ .script

def decode : Decoder SourceType :=
  Decoder.keyword (all.map fun sourceType => (sourceType.name, sourceType))

def encode (sourceType : SourceType) : Value := .string sourceType.name

end SourceType

structure ParserCapabilities where
  syntaxVersion : SyntaxVersion
  sourceType : SourceType
  deriving DecidableEq, Repr

namespace ParserCapabilities

def default : ParserCapabilities := ⟨.fifth, .script⟩

def record : Record ParserCapabilities :=
  ParserCapabilities.mk <$> .required "syntax_version" SyntaxVersion.decode
    <*> .required "source_type" SourceType.decode

def decode : Decoder ParserCapabilities := record.decode "ParserCapabilities"

def encode (capabilities : ParserCapabilities) : Value :=
  .object [("syntax_version", capabilities.syntaxVersion.encode),
    ("source_type", capabilities.sourceType.encode)]

end ParserCapabilities

end ScriptLint
