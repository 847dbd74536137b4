import ScriptLint.Json.Token

/-!
# Reading JSON

A reader walks once over the tokens of a text and keeps the arrays and objects
that are still open on a stack.  Fields come out in the order of the text,
repeated names included.  A text may nest only so deep.
-/

namespace ScriptLint.Json

/-- An open array or object with what it holds so far, last item first. -/
inductive Frame where
  | array (items : List Value)
  | object (fields : List (String × Value)) (name : String)

inductive Stage where
  | value
  | firstItem
  | firstName
  | name (fields : List (String × Value))
  | colon (fields : List (String × Value)) (name : String)
  | after (value : Value)

structure ReaderState where
  stack : List Frame
  stage : Stage

def ReaderState.initial : ReaderState := ⟨[], .value⟩

def closeArray? (item : Value) : List Frame → Option ReaderState
  | .array items :: stack => some ⟨stack, .after (.array (item :: items).reverse)⟩
  | _ => none

def closeObject? (value : Value) : List Frame → Option ReaderState
  | .object fields name :: stack =>
      some ⟨stack, .after (.object ((name, value) :: fields).reverse)⟩
  | _ => none

def continue? (value : Value) : List Frame → Option ReaderState
  | .array items :: stack => some ⟨.array (value :: items) :: stack, .value⟩
  | .object fields name :: stack => some ⟨stack, .name ((name, value) :: fields)⟩
  | [] => none

def beginValue? (depthLimit : Nat) (stack : List Frame) : Token → Option ReaderState
  | .scalar value => some ⟨stack, .after value⟩
  | .openArray => if stack.length < depthLimit then some ⟨stack, .firstItem⟩ else none
  | .openObject => if stack.length < depthLimit then some ⟨stack, .firstName⟩ else none
  | _ => none

def ReaderState.step? (depthLimit : Nat) (state : ReaderState) (token : Token) :
    Option ReaderState :=
  match state.stage, token with
  | .value, token => beginValue? depthLimit state.stack token
  | .firstItem, .closeArray => some ⟨state.stack, .after (.array [])⟩
  | .firstItem, token => beginValue? depthLimit (.array [] :: state.stack) token
  | .firstName, .closeObject => some ⟨state.stack, .after (.object [])⟩
  | .firstName, .scalar (.string name) => some ⟨state.stack, .colon [] name⟩
  | .name fields, .scalar (.string name) => some ⟨state.stack, .colon fields name⟩
  | .colon fields name, .colon => some ⟨.object fields name :: state.stack, .value⟩
  | .after value, .comma => continue? value state.stack
  | .after value, .closeArray => closeArray? value state.stack
  | .after value, .closeObject => closeObject? value state.stack
  | _, _ => none

def ReaderState.result? : ReaderState → Option Value
  | ⟨[], .after value⟩ => some value
  | _ => none

/-- Reads one value, in which arrays and objects nest at most `depthLimit` deep. -/
def read? (depthLimit : Nat) (text : String) : Option Value :=
  (tokens text.toList).bind fun list =>
    (list.foldlM (ReaderState.step? depthLimit) .initial).bind ReaderState.result?

end ScriptLint.Json
