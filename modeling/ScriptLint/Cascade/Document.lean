import ScriptLint.Value.Record

/-!
# Policy documents

A policy document is one layer of configuration as users write it.  Some keys
have a second accepted spelling, and some values more than one form; unknown keys
are rejected.
-/

namespace ScriptLint

/-! ## Values with several forms -/

inductive EnvironmentsDeclaration where
  | list (ids : List String)
  | table (switches : Dictionary Bool)

namespace EnvironmentsDeclaration

def ids : EnvironmentsDeclaration → List String
  | .list ids => ids
  | .table switches => (switches.entries.filter (·.2)).map (·.1)

def decode : Decoder EnvironmentsDeclaration :=
  Decoder.either "EnvironmentsDecl"
    (fun value => (Decoder.list Decoder.text value).map .list)
    (fun value => (Decoder.dictionary Decoder.flag value).map .table)

def encode : EnvironmentsDeclaration → Value
  | .list ids => .array (ids.map .string)
  | .table switches => .object (switches.entries.map fun entry => (entry.1, .bool entry.2))

end EnvironmentsDeclaration

inductive Extends where
  | one (reference : String)
  | many (references : List String)
  deriving DecidableEq, Repr

namespace Extends

def references : Extends → List String
  | .one reference => [reference]
  | .many references => references

def decode : Decoder Extends :=
  Decoder.either "OneOrMany" (fun value => (Decoder.text value).map .one)
    (fun value => (Decoder.list Decoder.text value).map .many)

def encode : Extends → Value
  | .one reference => .string reference
  | .many references => .array (references.map .string)

end Extends

inductive VersionDeclaration where
  | number (edition : Nat)
  | name (text : String)
  deriving DecidableEq, Repr

namespace VersionDeclaration

def decode : Decoder VersionDeclaration :=
  Decoder.either "SyntaxVersionDecl" (fun value => (Decoder.natural16 value).map .number)
    (fun value => (Decoder.text value).map .name)

def encode : VersionDeclaration → Value
  | .number edition => .int edition
  | .name text => .string text

end VersionDeclaration

inductive GlobalDeclaration where
  | flag (writable : Bool)
  | mode (name : String)
  deriving DecidableEq, Repr

namespace GlobalDeclaration

def decode : Decoder GlobalDeclaration :=
  Decoder.either "GlobalDecl" (fun value => (Decoder.flag value).map .flag)
    (fun value => (Decoder.text value).map .mode)

def encode : GlobalDeclaration → Value
  | .flag writable => .bool writable
  | .mode name => .string name

end GlobalDeclaration

/-! ## Optional fields -/

def optionalField {α : Type} (name : String) (encode : α → Value) (value : Option α) :
    List (String × Value) :=
  (value.map fun present => (name, encode present)).toList

/-! ## Parser capabilities -/

structure CapabilitiesDeclaration where
  syntaxVersion : Option VersionDeclaration
  sourceType : Option String
  moduleMode : Option Bool
  deriving DecidableEq, Repr

namespace CapabilitiesDeclaration

def record : Record CapabilitiesDeclaration :=
  CapabilitiesDeclaration.mk
    <$> .spelled "syntaxVersion" ["ecmaVersion", "syntaxVersion"]
      VersionDeclaration.decode.optional none
    <*> .defaulted "sourceType" Decoder.text.optional none
    <*> .defaulted "moduleMode" Decoder.flag.optional none

def decode : Decoder CapabilitiesDeclaration := record.decodeStrict "ParserCapabilitiesDecl"

def encode (capabilities : CapabilitiesDeclaration) : Value :=
  .object <|
    optionalField "syntaxVersion" VersionDeclaration.encode capabilities.syntaxVersion ++
    optionalField "sourceType" .string capabilities.sourceType ++
    optionalField "moduleMode" .bool capabilities.moduleMode

end CapabilitiesDeclaration

/-! ## Documents -/

structure PolicyDocument where
  schema : Option String
  environments : Option EnvironmentsDeclaration
  extending : Option Extends
  capabilities : Option CapabilitiesDeclaration
  plugins : List String
  globals : Dictionary GlobalDeclaration
  rules : Dictionary Value

namespace PolicyDocument

def empty : PolicyDocument := ⟨none, none, none, none, [], ∅, ∅⟩

def references (document : PolicyDocument) : List String :=
  (document.extending.map Extends.references).getD []

def record : Record PolicyDocument :=
  PolicyDocument.mk <$> .defaulted "$schema" Decoder.text.optional none
    <*> .spelled "environments" ["env", "environments"]
      EnvironmentsDeclaration.decode.optional none
    <*> .defaulted "extends" Extends.decode.optional none
    <*> .spelled "parserCapabilities" ["parserCapabilities", "parserOptions"]
      CapabilitiesDeclaration.decode.optional none
    <*> .defaulted "plugins" (Decoder.list Decoder.text) []
    <*> .defaulted "globals" (Decoder.dictionary GlobalDeclaration.decode) ∅
    <*> .defaulted "rules" (Decoder.dictionary Decoder.any) ∅

def decode : Decoder PolicyDocument := record.decodeStrict "PolicyDocument"

/-- Uses the first spelling of each key and leaves out what is absent or empty. -/
def encode (document : PolicyDocument) : Value :=
  .object <|
    optionalField "$schema" .string document.schema ++
    optionalField "environments" EnvironmentsDeclaration.encode document.environments ++
    optionalField "extends" Extends.encode document.extending ++
    optionalField "parserCapabilities" CapabilitiesDeclaration.encode document.capabilities ++
    (if document.plugins.isEmpty then []
      else [("plugins", .array (document.plugins.map .string))]) ++
    (if document.globals.isEmpty then []
      else [("globals", .object (document.globals.entries.map fun entry =>
        (entry.1, entry.2.encode)))]) ++
    (if document.rules.isEmpty then [] else [("rules", .object document.rules.entries)])

end PolicyDocument

end ScriptLint
