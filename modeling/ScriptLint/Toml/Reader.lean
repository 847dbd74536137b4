import ScriptLint.Toml.Lexeme
import ScriptLint.Toml.Scalar
import ScriptLint.Toml.Table

/-!
# Reading TOML

A reader walks once over the lexemes of a text, keeps the arrays and inline tables
that are still open on a stack, and collects statements.  Arrays and inline tables
may spread over lines, and a comma may follow their last item.
-/

namespace ScriptLint.Toml

/-! ## Keys -/

inductive Piece where
  | name (text : String)
  | dot
  deriving DecidableEq, Repr

def isBareCharacter (character : Char) : Bool :=
  ('a' ≤ character && character ≤ 'z') || ('A' ≤ character && character ≤ 'Z') ||
    Text.isDecimalDigit character || character = '_' || character = '-'

/-- The pieces of a word, after the bare name that has been read of it, last character first. -/
def wordPieces? : List Char → List Char → Option (List Piece)
  | [], [] => some []
  | bare, [] => some [.name (String.ofList bare.reverse)]
  | bare, character :: rest =>
      if character = '.' then
        (wordPieces? [] rest).map fun pieces =>
          if bare.isEmpty then .dot :: pieces
          else .name (String.ofList bare.reverse) :: .dot :: pieces
      else if isBareCharacter character then wordPieces? (character :: bare) rest
      else none

def pieceNames? : List Piece → Option (List String)
  | [.name text] => some [text]
  | .name text :: .dot :: rest => (pieceNames? rest).map (text :: ·)
  | _ => none

def Key.ofNames? (names : List String) : Option Key :=
  names.getLast?.map fun name => ⟨names.dropLast, name⟩

def Key.ofPieces? (pieces : List Piece) : Option Key :=
  (pieceNames? pieces).bind Key.ofNames?

def Lexeme.pieces? : Lexeme → Option (List Piece)
  | .space => some []
  | .word characters => wordPieces? [] characters
  | .quoted content false => some [.name content]
  | _ => none

/-! ## The reader -/

/-- What a value is read for. -/
inductive Frame where
  | assignment (key : Key)
  | array (items : List Value)
  | inlineTable (fields : Fields) (key : Key)

/-- What a key is read for. -/
inductive KeyPlace where
  | assignment
  | header
  | element
  | inlineTable (fields : Fields)

inductive Stage where
  | line
  | bracket
  | key (place : KeyPlace) (pieces : List Piece)
  | secondBracket (key : Key)
  | value
  | item (items : List Value)
  | afterItem (items : List Value)
  | field (fields : Fields)
  | afterField (fields : Fields)
  | lineEnd

structure ReaderState where
  statements : List Statement
  stack : List Frame
  stage : Stage

namespace ReaderState

def initial : ReaderState := ⟨[], [], .line⟩

def depthLimit : Nat := 80

def finishStatement (state : ReaderState) (statement : Statement) : ReaderState :=
  ⟨statement :: state.statements, [], .lineEnd⟩

def finishValue? (state : ReaderState) (value : Value) : Option ReaderState :=
  match state.stack with
  | [] => none
  | .assignment key :: _ => some (state.finishStatement (.assignment key value))
  | .array items :: stack => some ⟨state.statements, stack, .afterItem (value :: items)⟩
  | .inlineTable fields key :: stack =>
      (fields.assign key value).map fun fields => ⟨state.statements, stack, .afterField fields⟩

def closeArray? (state : ReaderState) (items : List Value) : Option ReaderState :=
  state.finishValue? (.array items.reverse)

def closeTable? (state : ReaderState) (fields : Fields) : Option ReaderState :=
  state.finishValue? (.object (valueFields fields))

def opened? (state : ReaderState) (stage : Stage) : Option ReaderState :=
  if state.stack.length ≤ depthLimit then some { state with stage } else none

def beginValue? (state : ReaderState) : Lexeme → Option ReaderState
  | .word characters => (scalar? characters).bind state.finishValue?
  | .quoted content _ => state.finishValue? (.string content)
  | .openBracket => state.opened? (.item [])
  | .openBrace => state.opened? (.field [])
  | _ => none

def addPieces? (state : ReaderState) (place : KeyPlace) (pieces : List Piece) (lexeme : Lexeme) :
    Option ReaderState :=
  lexeme.pieces?.map fun more => { state with stage := .key place (pieces ++ more) }

def finishKey? (state : ReaderState) (key : Key) : KeyPlace → Lexeme → Option ReaderState
  | .assignment, .equals => some ⟨state.statements, [.assignment key], .value⟩
  | .inlineTable fields, .equals =>
      some ⟨state.statements, .inlineTable fields key :: state.stack, .value⟩
  | .header, .closeBracket => some (state.finishStatement (.header key))
  | .element, .closeBracket => some { state with stage := .secondBracket key }
  | _, _ => none

def step? (state : ReaderState) (lexeme : Lexeme) : Option ReaderState :=
  match state.stage, lexeme with
  | .line, .space => some state
  | .line, .lineEnd => some state
  | .line, .openBracket => some { state with stage := .bracket }
  | .line, lexeme => state.addPieces? .assignment [] lexeme
  | .bracket, .openBracket => some { state with stage := .key .element [] }
  | .bracket, lexeme => state.addPieces? .header [] lexeme
  | .key place pieces, .equals => (Key.ofPieces? pieces).bind (state.finishKey? · place .equals)
  | .key place pieces, .closeBracket =>
      (Key.ofPieces? pieces).bind (state.finishKey? · place .closeBracket)
  | .key place pieces, lexeme => state.addPieces? place pieces lexeme
  | .secondBracket key, .closeBracket => some (state.finishStatement (.element key))
  | .secondBracket _, _ => none
  | .value, .space => some state
  | .value, lexeme => state.beginValue? lexeme
  | .item _, .space => some state
  | .item _, .lineEnd => some state
  | .item items, .closeBracket => state.closeArray? items
  | .item items, lexeme =>
      beginValue? { state with stack := .array items :: state.stack } lexeme
  | .afterItem _, .space => some state
  | .afterItem _, .lineEnd => some state
  | .afterItem items, .comma => some { state with stage := .item items }
  | .afterItem items, .closeBracket => state.closeArray? items
  | .afterItem _, _ => none
  | .field _, .space => some state
  | .field _, .lineEnd => some state
  | .field fields, .closeBrace => state.closeTable? fields
  | .field fields, lexeme => state.addPieces? (.inlineTable fields) [] lexeme
  | .afterField _, .space => some state
  | .afterField _, .lineEnd => some state
  | .afterField fields, .comma => some { state with stage := .field fields }
  | .afterField fields, .closeBrace => state.closeTable? fields
  | .afterField _, _ => none
  | .lineEnd, .space => some state
  | .lineEnd, .lineEnd => some { state with stage := .line }
  | .lineEnd, _ => none

def result? (state : ReaderState) : Option (List Statement) :=
  match state.stage with
  | .line => some state.statements.reverse
  | .lineEnd => some state.statements.reverse
  | _ => none

end ReaderState

def dropByteOrderMark : List Char → List Char
  | '\uFEFF' :: rest => rest
  | input => input

def statements? (text : String) : Option (List Statement) :=
  (lexemes (joinLineEnds (dropByteOrderMark text.toList))).bind fun list =>
    (list.foldlM ReaderState.step? .initial).bind ReaderState.result?

def read? (text : String) : Option Value :=
  (statements? text).bind fun list => (list.foldlM Document.add? .empty).map Document.value

end ScriptLint.Toml
