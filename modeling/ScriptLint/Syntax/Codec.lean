import ScriptLint.Syntax.Node
import ScriptLint.Value.Record

/-!
# Syntax trees as values

A node must have a kind; its place, attributes and children may be left out.
Encoding leaves out absent attributes and empty lists of children.
-/

namespace ScriptLint

/-! ## Enumerations -/

def NodeKind.decode : Decoder NodeKind :=
  Decoder.keyword (NodeKind.all.map fun kind => (kind.name, kind))

def DeclarationKind.decode : Decoder DeclarationKind :=
  Decoder.keyword (DeclarationKind.all.map fun kind => (kind.name, kind))

def IdentifierRole.decode : Decoder IdentifierRole :=
  Decoder.keyword (IdentifierRole.all.map fun role => (role.name, role))

/-! ## Decoding -/

def SourceLocation.decode : Decoder SourceLocation :=
  Record.decode "SourceLocation" <|
    SourceLocation.mk <$> .required "start" LineColumn.decode
      <*> .required "end" LineColumn.decode

def Attributes.decode : Decoder Attributes :=
  Record.decode "NodeAttrs" <|
    Attributes.mk <$> .defaulted "name" Decoder.text.optional none
      <*> .defaulted "role" IdentifierRole.decode.optional none
      <*> .defaulted "declaration" DeclarationKind.decode.optional none
      <*> .defaulted "operator" Decoder.text.optional none
      <*> .defaulted "raw" Decoder.text.optional none
      <*> .defaulted "terminated" Decoder.flag.optional none

namespace Node

def record (children : Decoder (List Node)) : Record Node :=
  Node.mk <$> .required "kind" NodeKind.decode
    <*> .defaulted "loc" SourceLocation.decode .zero
    <*> .defaulted "range" Span.decode .zero
    <*> .defaulted "attrs" Attributes.decode .empty
    <*> .defaulted "children" children []

def decodeWithin : Nat → Decoder Node
  | 0 => fun value => .error (.wrongType value "struct Node")
  | depth + 1 => (record (Decoder.list (decodeWithin depth))).decode "Node"

def decode : Decoder Node := fun value => decodeWithin (value.depth + 1) value

end Node

def SyntaxTree.decode : Decoder SyntaxTree :=
  Record.decode "SyntaxTree" <|
    SyntaxTree.mk <$> .defaulted "path" RepoPath.decode (RepoPath.of "")
      <*> .required "root" Node.decode

/-! ## Encoding -/

def SourceLocation.encode (location : SourceLocation) : Value :=
  .object [("start", location.start.encode), ("end", location.stop.encode)]

def Attributes.encode (attributes : Attributes) : Value :=
  .object <|
    (attributes.name.map fun name => ("name", Value.string name)).toList ++
    (attributes.role.map fun role => ("role", Value.string role.name)).toList ++
    (attributes.declaration.map fun kind => ("declaration", Value.string kind.name)).toList ++
    (attributes.operator.map fun operator => ("operator", Value.string operator)).toList ++
    (attributes.raw.map fun raw => ("raw", Value.string raw)).toList ++
    (attributes.terminated.map fun flag => ("terminated", Value.bool flag)).toList

mutual

def Node.encode : Node → Value
  | ⟨kind, location, span, attributes, children⟩ =>
      .object ([("kind", .string kind.name), ("loc", location.encode), ("range", span.encode),
        ("attrs", attributes.encode)] ++
        match Node.encodeAll children with
        | [] => []
        | items => [("children", .array items)])

def Node.encodeAll : List Node → List Value
  | [] => []
  | child :: rest => child.encode :: Node.encodeAll rest

end

def SyntaxTree.encode (tree : SyntaxTree) : Value :=
  .object [("path", tree.path.encode), ("root", tree.root.encode)]

end ScriptLint
