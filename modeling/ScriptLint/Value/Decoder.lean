import ScriptLint.Value.DecodeError

/-!
# Decoders

A decoder turns a value into a typed one or says why it cannot.  Items of an
array are decoded in order, fields of an object in the order in which they are
listed, and the first failure is the answer.
-/

namespace ScriptLint

abbrev Decoder (α : Type) := Value → Except DecodeError α

namespace Decoder

variable {α : Type}

/-! ## Scalars -/

def any : Decoder Value := .ok

def text : Decoder String
  | .string text => .ok text
  | other => .error (.wrongType other "a string")

def flag : Decoder Bool
  | .bool flag => .ok flag
  | other => .error (.wrongType other "a boolean")

def natural (limit : Nat) (name : String) : Decoder Nat
  | .int number =>
      if 0 ≤ number ∧ number < limit then .ok number.toNat
      else .error (.outOfRange number name)
  | other => .error (.wrongType other name)

def natural16 : Decoder Nat := natural 0x10000 "u16"

def natural32 : Decoder Nat := natural 0x100000000 "u32"

def natural64 : Decoder Nat := natural 0x10000000000000000 "u64"

def size : Decoder Nat := natural 0x10000000000000000 "usize"

def optional (decode : Decoder α) : Decoder (Option α)
  | .null => .ok none
  | value => (decode value).map some

/-! ## Collections -/

def decodeAll (decode : Decoder α) : List Value → Except DecodeError (List α)
  | [] => .ok []
  | item :: rest =>
      match decode item with
      | .error cause => .error cause
      | .ok first =>
          match decodeAll decode rest with
          | .error cause => .error cause
          | .ok others => .ok (first :: others)

def list (decode : Decoder α) : Decoder (List α)
  | .array items => decodeAll decode items
  | other => .error (.wrongType other "a sequence")

def names : Decoder NameSet := fun value => (list text value).map NameSet.ofNames

def decodeEntries (decode : Decoder α) :
    List (String × Value) → Except DecodeError (List (String × α))
  | [] => .ok []
  | (name, value) :: rest =>
      match decode value with
      | .error cause => .error cause
      | .ok first =>
          match decodeEntries decode rest with
          | .error cause => .error cause
          | .ok others => .ok ((name, first) :: others)

def dictionary (decode : Decoder α) : Decoder (Dictionary α)
  | .object fields => (decodeEntries decode fields).map Dictionary.ofList
  | other => .error (.wrongType other "a map")

/-! ## Alternatives -/

def choose (choices : List (String × α)) (name : String) : Except DecodeError α :=
  match Dictionary.findEntry name choices with
  | some choice => .ok choice
  | none => .error (.unknownKeyword name (choices.map (·.1)))

/-- One of a list of words, also accepted as the only key of an object that holds null. -/
def keyword (choices : List (String × α)) : Decoder α
  | .string name => choose choices name
  | .object [(name, value)] =>
      match choose choices name with
      | .error cause => .error cause
      | .ok choice =>
          match value with
          | .null => .ok choice
          | other => .error (.wrongType other "unit")
  | .object _ => .error .notOneKey
  | other => .error (.wrongType other "string or map")

def either (typeName : String) (first second : Decoder α) : Decoder α := fun value =>
  match first value with
  | .ok result => .ok result
  | .error _ =>
      match second value with
      | .ok result => .ok result
      | .error _ => .error (.noForm typeName)

end Decoder

end ScriptLint
