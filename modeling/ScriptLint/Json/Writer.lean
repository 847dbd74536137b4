import ScriptLint.Number.Format
import ScriptLint.Text.Digits
import ScriptLint.Value.Basic

/-!
# JSON text

The compact text of a value has no blanks.  The pretty text puts each item and
each field on a line of its own, indented by two blanks for each level, and
leaves empty arrays and objects on one line.  Both write fields in the order in
which the object lists them.
-/

namespace ScriptLint.Json

open Text

/-! ## Scalars -/

def escapedCharacter (character : Char) : List Char :=
  if character = '"' then ['\\', '"']
  else if character = '\\' then ['\\', '\\']
  else if character = '\n' then ['\\', 'n']
  else if character = '\r' then ['\\', 'r']
  else if character = '\t' then ['\\', 't']
  else if character.toNat = 8 then ['\\', 'b']
  else if character.toNat = 12 then ['\\', 'f']
  else if character.toNat < 32 then ['\\', 'u'] ++ hexFixed 4 character.toNat
  else [character]

def stringText (text : String) : List Char :=
  ['"'] ++ text.toList.flatMap escapedCharacter ++ ['"']

def boolText (flag : Bool) : List Char :=
  if flag then ['t', 'r', 'u', 'e'] else ['f', 'a', 'l', 's', 'e']

def nullText : List Char := ['n', 'u', 'l', 'l']

/-! ## Compact text -/

mutual

def compactText : Value → List Char
  | .null => nullText
  | .bool flag => boolText flag
  | .int number => integerDigits number
  | .float number => Binary64.messageFormat.write number
  | .string text => stringText text
  | .array items => ['['] ++ compactItems items ++ [']']
  | .object fields => ['\x7b'] ++ compactFields fields ++ ['\x7d']

def compactItems : List Value → List Char
  | [] => []
  | [item] => compactText item
  | item :: rest => compactText item ++ [','] ++ compactItems rest

def compactFields : List (String × Value) → List Char
  | [] => []
  | [(name, value)] => stringText name ++ [':'] ++ compactText value
  | (name, value) :: rest =>
      stringText name ++ [':'] ++ compactText value ++ [','] ++ compactFields rest

end

def compact (value : Value) : String := String.ofList (compactText value)

/-! ## Pretty text -/

def newLine (level : Nat) : List Char := '\n' :: List.replicate (2 * level) ' '

mutual

def prettyText (level : Nat) : Value → List Char
  | .null => nullText
  | .bool flag => boolText flag
  | .int number => integerDigits number
  | .float number => Binary64.messageFormat.write number
  | .string text => stringText text
  | .array [] => ['[', ']']
  | .array items => ['['] ++ prettyItems (level + 1) items ++ newLine level ++ [']']
  | .object [] => ['\x7b', '\x7d']
  | .object fields =>
      ['\x7b'] ++ prettyFields (level + 1) fields ++ newLine level ++ ['\x7d']

def prettyItems (level : Nat) : List Value → List Char
  | [] => []
  | [item] => newLine level ++ prettyText level item
  | item :: rest => newLine level ++ prettyText level item ++ [','] ++ prettyItems level rest

def prettyFields (level : Nat) : List (String × Value) → List Char
  | [] => []
  | [(name, value)] => newLine level ++ stringText name ++ [':', ' '] ++ prettyText level value
  | (name, value) :: rest =>
      newLine level ++ stringText name ++ [':', ' '] ++ prettyText level value ++ [','] ++
        prettyFields level rest

end

theorem prettyText_array_cons (level : Nat) (item : Value) (items : List Value) :
    prettyText level (.array (item :: items)) =
      ['['] ++ prettyItems (level + 1) (item :: items) ++ newLine level ++ [']'] := by
  rw [prettyText]
  simp

theorem prettyText_object_cons (level : Nat) (field : String × Value)
    (fields : List (String × Value)) :
    prettyText level (.object (field :: fields)) =
      ['\x7b'] ++ prettyFields (level + 1) (field :: fields) ++ newLine level ++ ['\x7d'] := by
  rw [prettyText]
  simp

theorem prettyItems_cons_cons (level : Nat) (item next : Value) (rest : List Value) :
    prettyItems level (item :: next :: rest) =
      newLine level ++ prettyText level item ++ [','] ++ prettyItems level (next :: rest) := by
  rw [prettyItems]
  simp

theorem prettyFields_cons_cons (level : Nat) (name : String) (value : Value)
    (next : String × Value) (rest : List (String × Value)) :
    prettyFields level ((name, value) :: next :: rest) =
      newLine level ++ stringText name ++ [':', ' '] ++ prettyText level value ++ [','] ++
        prettyFields level (next :: rest) := by
  rw [prettyFields]
  simp

def pretty (value : Value) : String := String.ofList (prettyText 0 value)

end ScriptLint.Json
