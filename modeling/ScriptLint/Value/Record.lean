import ScriptLint.Value.Decoder

/-!
# Records

A record type is described by its fields in order.  It decodes from an object,
by name, and from an array, by position.  In an object the failure at the
earliest key is the answer, a missing field comes after all of those, and of
several missing fields the first in the description.
-/

namespace ScriptLint

/-! ## Failures and their order -/

inductive Fault where
  | atKey (index : Nat) (cause : DecodeError)
  | afterKeys (cause : DecodeError)

namespace Fault

def cause : Fault → DecodeError
  | .atKey _ cause => cause
  | .afterKeys cause => cause

/-- Of two failures the one at the earlier key; the first one if neither is at a key. -/
def earlier : Fault → Fault → Fault
  | .atKey first cause, .atKey second other =>
      if second < first then .atKey second other else .atKey first cause
  | .afterKeys _, .atKey second other => .atKey second other
  | first, _ => first

end Fault

/-! ## Record descriptions -/

structure Record (α : Type) where
  spellings : List (List String)
  ofFields : List (String × Value) → Except Fault α
  /--
  Takes the leading items.  The arguments are the text that describes the whole
  record and the position of the first item.
  -/
  ofItems : String → Nat → List Value → Except DecodeError (α × List Value)

namespace Record

variable {α β : Type}

def pure (value : α) : Record α where
  spellings := []
  ofFields _ := .ok value
  ofItems _ _ items := .ok (value, items)

def apply (first : Record (α → β)) (second : Record α) : Record β where
  spellings := first.spellings ++ second.spellings
  ofFields fields :=
    match first.ofFields fields, second.ofFields fields with
    | .ok function, .ok argument => .ok (function argument)
    | .error fault, .ok _ => .error fault
    | .ok _, .error fault => .error fault
    | .error fault, .error other => .error (fault.earlier other)
  ofItems expected index items :=
    match first.ofItems expected index items with
    | .error cause => .error cause
    | .ok (function, rest) =>
        match second.ofItems expected (index + first.spellings.length) rest with
        | .error cause => .error cause
        | .ok (argument, rest) => .ok (function argument, rest)

instance : Applicative Record where
  pure := Record.pure
  seq first second := first.apply (second ())

/-! ## Fields -/

def occurrences (names : List String) (fields : List (String × Value)) : List (Nat × Value) :=
  fields.zipIdx.filterMap fun entry =>
    if entry.1.1 ∈ names then some (entry.2, entry.1.2) else none

/--
A single field.  `absent` is its value in an object without it, and `default?` the
one in an array that is too short for it.
-/
def field (name : String) (spellings : List String) (decode : Decoder α)
    (absent : Except DecodeError α) (default? : Option α) : Record α where
  spellings := [spellings]
  ofFields fields :=
    match occurrences spellings fields with
    | [] =>
        match absent with
        | .ok value => .ok value
        | .error cause => .error (.afterKeys cause)
    | (index, value) :: more =>
        match decode value, more with
        | .error cause, _ => .error (.atKey index cause)
        | .ok _, (again, _) :: _ => .error (.atKey again (.duplicateField name))
        | .ok result, [] => .ok result
  ofItems expected index items :=
    match items, default? with
    | item :: rest, _ => (decode item).map fun result => (result, rest)
    | [], some value => .ok (value, [])
    | [], none => .error (.wrongLength index expected)

def required (name : String) (decode : Decoder α) : Record α :=
  field name [name] decode (.error (.missingField name)) none

def spelled (name : String) (spellings : List String) (decode : Decoder α) (value : α) :
    Record α :=
  field name spellings decode (.ok value) (some value)

def defaulted (name : String) (decode : Decoder α) (value : α) : Record α :=
  spelled name [name] decode value

/-- A field that an object may leave out and an array may not. -/
def possible (name : String) (decode : Decoder α) : Record (Option α) :=
  field name [name] decode.optional (.ok none) none

/-! ## Decoding -/

def unknownField? (accepted : List String) (fields : List (String × Value)) : Option Fault :=
  fields.zipIdx.findSome? fun entry =>
    if entry.1.1 ∈ accepted then none
    else some (.atKey entry.2 (.unknownField entry.1.1 accepted))

def elements : Nat → String
  | 1 => "1 element"
  | count => s!"{Text.natural count} elements"

def ofObject (record : Record α) (unknown : Option Fault) (fields : List (String × Value)) :
    Except DecodeError α :=
  match record.ofFields fields, unknown with
  | .ok value, none => .ok value
  | .ok _, some fault => .error fault.cause
  | .error fault, none => .error fault.cause
  | .error fault, some other => .error (fault.earlier other).cause

def ofArray (typeName : String) (record : Record α) (items : List Value) :
    Except DecodeError α :=
  match record.ofItems s!"struct {typeName} with {elements record.spellings.length}" 0 items with
  | .error cause => .error cause
  | .ok (value, []) => .ok value
  | .ok (_, _ :: _) => .error (.wrongLength items.length "fewer elements in array")

def decode (typeName : String) (record : Record α) : Decoder α
  | .object fields => record.ofObject none fields
  | .array items => record.ofArray typeName items
  | other => .error (.wrongType other s!"struct {typeName}")

def decodeStrict (typeName : String) (record : Record α) : Decoder α
  | .object fields => record.ofObject (unknownField? record.spellings.flatten fields) fields
  | .array items => record.ofArray typeName items
  | other => .error (.wrongType other s!"struct {typeName}")

end Record

end ScriptLint
