import ScriptLint.Value.Basic

/-!
# TOML tables

A document writes its tables piece by piece: in headers, by dotted keys, and as
values.  Every table may be defined only once, so an entry remembers how it came
about, which decides what may still be added to it.
-/

namespace ScriptLint.Toml

inductive Origin where
  /-- By the header of a table below it; it may still get a header of its own. -/
  | implied
  | dotted
  | declared
  deriving DecidableEq, Repr

inductive Entry where
  | closed (value : Value)
  | table (origin : Origin) (fields : List (String × Entry))
  /-- An array of tables, of which the latest may still grow; the others stand in reverse. -/
  | series (latest : List (String × Entry)) (earlier : List (List (String × Entry)))

abbrev Fields := List (String × Entry)

structure Key where
  path : List String
  name : String
  deriving DecidableEq, Repr

namespace Fields

def alter (name : String) (change : Option Entry → Option Entry) : Fields → Option Fields
  | [] => (change none).map fun entry => [(name, entry)]
  | (other, entry) :: rest =>
      if other = name then (change (some entry)).map fun changed => (name, changed) :: rest
      else (alter name change rest).map ((other, entry) :: ·)

/--
Assigns a value to a dotted key.  The tables on its path may be new or made by other
dotted keys; one that a header implies may be passed, but not be the last.
-/
def assignAt (name : String) (value : Value) : List String → Fields → Option Fields
  | [], fields =>
      fields.alter name fun
        | none => some (.closed value)
        | some _ => none
  | step :: path, fields =>
      fields.alter step fun
        | none => (assignAt name value path []).map (.table .dotted)
        | some (.table .dotted inner) => (assignAt name value path inner).map (.table .dotted)
        | some (.table .implied inner) =>
            if path.isEmpty then none
            else (assignAt name value path inner).map (.table .implied)
        | some _ => none

def assign (key : Key) (value : Value) (fields : Fields) : Option Fields :=
  fields.assignAt key.name value key.path

def below (change : Fields → Option Fields) : List String → Fields → Option Fields
  | [], fields => change fields
  | step :: path, fields =>
      fields.alter step fun
        | none => (below change path []).map (.table .implied)
        | some (.table origin inner) => (below change path inner).map (.table origin)
        | some (.series latest earlier) => (below change path latest).map (.series · earlier)
        | some (.closed _) => none

def declare (key : Key) : Fields → Option Fields :=
  below (fun fields => fields.alter key.name fun
    | none => some (.table .declared [])
    | some (.table .implied inner) => some (.table .declared inner)
    | some _ => none) key.path

def extend (key : Key) : Fields → Option Fields :=
  below (fun fields => fields.alter key.name fun
    | none => some (.series [] [])
    | some (.series latest earlier) => some (.series [] (latest :: earlier))
    | some _ => none) key.path

end Fields

/-! ## Values -/

mutual

def Entry.value : Entry → Value
  | .closed value => value
  | .table _ fields => .object (valueFields fields)
  | .series latest earlier => .array (valueItems earlier [.object (valueFields latest)])

def valueFields : List (String × Entry) → List (String × Value)
  | [] => []
  | (name, entry) :: rest => (name, entry.value) :: valueFields rest

def valueItems : List (List (String × Entry)) → List Value → List Value
  | [], following => following
  | fields :: earlier, following => valueItems earlier (.object (valueFields fields) :: following)

end

/-! ## Statements -/

inductive Statement where
  | header (key : Key)
  | element (key : Key)
  | assignment (key : Key) (value : Value)

structure Document where
  root : Fields
  current : List String

namespace Document

def empty : Document := ⟨[], []⟩

def add? (document : Document) : Statement → Option Document
  | .header key => (document.root.declare key).map fun root => ⟨root, key.path ++ [key.name]⟩
  | .element key => (document.root.extend key).map fun root => ⟨root, key.path ++ [key.name]⟩
  | .assignment key value =>
      (document.root.below (·.assign key value) document.current).map fun root =>
        ⟨root, document.current⟩

def value (document : Document) : Value := .object (valueFields document.root)

end Document

end ScriptLint.Toml
