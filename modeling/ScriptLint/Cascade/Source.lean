import ScriptLint.Cascade.ConfigError
import ScriptLint.Cascade.Document
import ScriptLint.Json.Reader
import ScriptLint.Toml.Reader

/-!
# Sources of documents

A document comes as JSON text, as TOML text or as a value.  References are looked up
among finitely many named sources; a source is parsed when it is referred to.
-/

namespace ScriptLint

inductive SourceFormat where
  | json
  | toml
  deriving DecidableEq, Repr

inductive Source where
  | text (format : SourceFormat) (content : String)
  | value (content : Value)

/-- What references are looked up in, by whatever rule.  All names that are known are listed. -/
structure Sources where
  load? : String → Option Source
  names : List String
  mem_names : ∀ {name : String} {source : Source}, load? name = some source → name ∈ names

namespace Sources

def ofDictionary (sources : Dictionary Source) : Sources where
  load? := sources.get?
  names := sources.keys
  mem_names := Dictionary.mem_keys_of_get?

instance : EmptyCollection Sources := ⟨ofDictionary ∅⟩

end Sources

namespace PolicyDocument

def normalized (document : PolicyDocument) : PolicyDocument :=
  { document with rules := document.rules.map fun setting => setting.finite.canonical }

def ofValue (value : Value) : Except ParseFault PolicyDocument :=
  match decode value with
  | .error cause => .error (.undecodable cause)
  | .ok document => .ok document.normalized

def depthLimit : Nat := 127

def ofJson (content : String) : Except ParseFault PolicyDocument :=
  match Json.read? depthLimit content with
  | none => .error .malformed
  | some value => ofValue value

/-- TOML text may list capabilities by position with more items than there are. -/
def withoutSurplus : Value → Value
  | .array items => .array (items.take CapabilitiesDeclaration.record.spellings.length)
  | other => other

def tomlField (field : String × Value) : String × Value :=
  if field.1 ∈ ["parserCapabilities", "parserOptions"] then (field.1, withoutSurplus field.2)
  else field

def ofToml (content : String) : Except ParseFault PolicyDocument :=
  match Toml.read? content with
  | some (.object fields) => ofValue (.object (fields.map tomlField))
  | _ => .error .malformed

end PolicyDocument

namespace Source

def document : Source → Except ParseFault PolicyDocument
  | .text .json content => PolicyDocument.ofJson content
  | .text .toml content => PolicyDocument.ofToml content
  | .value content => PolicyDocument.ofValue content

def parse (layer : String) (source : Source) : Except ConfigError PolicyDocument :=
  match source.document with
  | .error cause => .error ⟨layer, .parse cause⟩
  | .ok document => .ok document

end Source

end ScriptLint
