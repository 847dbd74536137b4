import ScriptLint.Json.Writer

/-!
# Comparing reports

Two runs on the same input differ in what they say about the run itself.
`normalized` replaces that by placeholders, and `locations` lists where the
diagnostics of a report are, so that reports of different runs can be compared.
-/

namespace ScriptLint.Golden

def versionPlaceholder : Value := .string "__VERSION__"

def timestampPlaceholder : Value := .string "__TIMESTAMP__"

/-! ## Normalization -/

def runPlaceholder? (name : String) : Option Value :=
  if name = "started_at" ∨ name = "finished_at" then some timestampPlaceholder
  else if name = "duration_ms" then some (.int 0)
  else none

mutual

/-- Replaces times and durations at any depth. -/
def withoutTimes : Value → Value
  | .array items => .array (withoutTimesItems items)
  | .object fields => .object (withoutTimesFields fields)
  | scalar => scalar

def withoutTimesItems : List Value → List Value
  | [] => []
  | item :: rest => withoutTimes item :: withoutTimesItems rest

def withoutTimesFields : List (String × Value) → List (String × Value)
  | [] => []
  | (name, value) :: rest =>
      (name, (runPlaceholder? name).getD (withoutTimes value)) :: withoutTimesFields rest

end

def reportFields : List String := ["schema", "tool", "run", "status", "files"]

def isReport (fields : List (String × Value)) : Bool :=
  reportFields.all fun name => (Value.fieldIn? name fields).isSome

def updateField (name : String) (update : Value → Value) (fields : List (String × Value)) :
    List (String × Value) :=
  fields.map fun field => if field.1 = name then (field.1, update field.2) else field

def withoutToolVersion : Value → Value
  | .object fields => .object (updateField "version" (fun _ => versionPlaceholder) fields)
  | other => other

def withoutVersion : Value → Value
  | .object fields =>
      if isReport fields then .object (updateField "tool" withoutToolVersion fields)
      else .object fields
  | other => other

def normalized (value : Value) : Value := withoutTimes (withoutVersion value)

/-! ## Locations -/

def locationText (path : String) (diagnostic : Value) : String :=
  let position := diagnostic.fieldOrNull "position"
  let line := Json.compact (position.fieldOrNull "line")
  let column := Json.compact (position.fieldOrNull "column")
  let rule := ((diagnostic.field? "rule_id").bind Value.text?).getD ""
  s!"{path}:{line}:{column} {rule}"

def itemsOf (name : String) (value : Value) : List Value :=
  ((value.field? name).bind Value.items?).getD []

def locations (report : Value) : List String :=
  (itemsOf "files" report).flatMap fun file =>
    let path := ((file.field? "path").bind Value.text?).getD ""
    (itemsOf "diagnostics" file).map (locationText path)

end ScriptLint.Golden
