import ScriptLint.Dictionary
import ScriptLint.Number.Binary64

/-!
# Dynamic values

The values of configuration documents, rule options and reports.  Whole numbers
and binary fractions are different values: `1` is never `1.0`.  An object lists its
fields as they were written; `canonical` orders them by name, and of two fields
with one name keeps the last.
-/

namespace ScriptLint

inductive Value where
  | null
  | bool (flag : Bool)
  | int (number : Int)
  | float (number : Binary64)
  | string (text : String)
  | array (items : List Value)
  | object (fields : List (String × Value))
  deriving Repr, Inhabited

namespace Value

/-! ## Canonical form -/

mutual

def canonical : Value → Value
  | .array items => .array (canonicalItems items)
  | .object fields => .object (Dictionary.ofList (canonicalFields fields)).entries
  | scalar => scalar

def canonicalItems : List Value → List Value
  | [] => []
  | item :: rest => item.canonical :: canonicalItems rest

def canonicalFields : List (String × Value) → List (String × Value)
  | [] => []
  | (name, value) :: rest => (name, value.canonical) :: canonicalFields rest

end

/-! ## Finite form -/

mutual

/-- Puts null in place of numbers that are not finite, which no JSON text can hold. -/
def finite : Value → Value
  | .float number => if number.isFinite then .float number else .null
  | .array items => .array (finiteItems items)
  | .object fields => .object (finiteFields fields)
  | scalar => scalar

def finiteItems : List Value → List Value
  | [] => []
  | item :: rest => item.finite :: finiteItems rest

def finiteFields : List (String × Value) → List (String × Value)
  | [] => []
  | (name, value) :: rest => (name, value.finite) :: finiteFields rest

end

/-! ## Nesting -/

mutual

def depth : Value → Nat
  | .array items => depthItems items + 1
  | .object fields => depthFields fields + 1
  | _ => 0

def depthItems : List Value → Nat
  | [] => 0
  | item :: rest => max item.depth (depthItems rest)

def depthFields : List (String × Value) → Nat
  | [] => 0
  | (_, value) :: rest => max value.depth (depthFields rest)

end

/-! ## Access -/

def fieldIn? (name : String) : List (String × Value) → Option Value
  | [] => none
  | (other, value) :: rest => if other = name then some value else fieldIn? name rest

def field? (name : String) : Value → Option Value
  | .object fields => fieldIn? name fields
  | _ => none

def fieldOrNull (name : String) (value : Value) : Value := (value.field? name).getD .null

def text? : Value → Option String
  | .string text => some text
  | _ => none

def items? : Value → Option (List Value)
  | .array items => some items
  | _ => none

end Value

end ScriptLint
