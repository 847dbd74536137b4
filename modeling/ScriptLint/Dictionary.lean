/-!
# Dictionaries with text keys

A dictionary lists its entries by strictly increasing key, so two dictionaries
with the same look-ups are the same value and every listing comes out in key
order.  Text is ordered by code points throughout.
-/

namespace ScriptLint

universe u v

structure Dictionary (α : Type u) where
  entries : List (String × α)
  ordered : entries.Pairwise (fun earlier later => earlier.1 < later.1)

namespace Dictionary

variable {α : Type u} {β : Type v}

/-! ## Entry lists -/

theorem lt_of_not_lt_of_ne {first second : String} (notLess : ¬ first < second)
    (different : first ≠ second) : second < first := by
  apply Decidable.byContradiction
  intro notGreater
  exact different (String.le_antisymm notGreater notLess)

def insertEntry (key : String) (value : α) : List (String × α) → List (String × α)
  | [] => [(key, value)]
  | entry :: rest =>
      if key < entry.1 then (key, value) :: entry :: rest
      else if key = entry.1 then (key, value) :: rest
      else entry :: insertEntry key value rest

def findEntry (key : String) : List (String × α) → Option α
  | [] => none
  | entry :: rest => if entry.1 = key then some entry.2 else findEntry key rest

theorem mem_insertEntry {key : String} {value : α} {entry : String × α}
    {entries : List (String × α)} (member : entry ∈ insertEntry key value entries) :
    entry = (key, value) ∨ entry ∈ entries := by
  induction entries with
  | nil => simpa [insertEntry] using member
  | cons head rest ih =>
      rw [insertEntry] at member
      split at member
      · simpa using member
      · split at member
        · rcases List.mem_cons.mp member with same | inRest
          · exact .inl same
          · exact .inr (List.mem_cons_of_mem _ inRest)
        · rcases List.mem_cons.mp member with same | inRest
          · exact .inr (same ▸ List.mem_cons_self)
          · exact (ih inRest).imp id (List.mem_cons_of_mem _)

theorem insertEntry_ordered (key : String) (value : α) {entries : List (String × α)}
    (ordered : entries.Pairwise (fun earlier later => earlier.1 < later.1)) :
    (insertEntry key value entries).Pairwise
      (fun earlier later => earlier.1 < later.1) := by
  induction entries with
  | nil => simp [insertEntry]
  | cons head rest ih =>
      have headLess := (List.pairwise_cons.mp ordered).1
      have restOrdered := (List.pairwise_cons.mp ordered).2
      rw [insertEntry]
      split
      · rename_i less
        refine List.pairwise_cons.mpr ⟨?_, ordered⟩
        intro entry member
        rcases List.mem_cons.mp member with rfl | inRest
        · exact less
        · exact String.lt_trans less (headLess entry inRest)
      · rename_i notLess
        split
        · rename_i same
          refine List.pairwise_cons.mpr ⟨?_, restOrdered⟩
          intro entry member
          rw [same]
          exact headLess entry member
        · rename_i different
          refine List.pairwise_cons.mpr ⟨?_, ih restOrdered⟩
          intro entry member
          rcases mem_insertEntry member with rfl | inRest
          · exact lt_of_not_lt_of_ne notLess different
          · exact headLess entry inRest

theorem mem_of_findEntry {key : String} {value : α} {entries : List (String × α)}
    (found : findEntry key entries = some value) : (key, value) ∈ entries := by
  induction entries with
  | nil => cases found
  | cons entry rest ih =>
      rw [findEntry] at found
      split at found
      · rename_i same
        cases found
        subst same
        exact List.mem_cons_self
      · exact List.mem_cons_of_mem _ (ih found)

/-! ## Operations -/

def empty : Dictionary α := ⟨[], .nil⟩

instance : EmptyCollection (Dictionary α) := ⟨empty⟩

instance : Inhabited (Dictionary α) := ⟨empty⟩

def isEmpty (dictionary : Dictionary α) : Bool := dictionary.entries.isEmpty

def keys (dictionary : Dictionary α) : List String := dictionary.entries.map (·.1)

def get? (dictionary : Dictionary α) (key : String) : Option α :=
  findEntry key dictionary.entries

theorem mem_of_get? {dictionary : Dictionary α} {key : String} {value : α}
    (found : dictionary.get? key = some value) : (key, value) ∈ dictionary.entries :=
  mem_of_findEntry found

theorem mem_keys_of_get? {dictionary : Dictionary α} {key : String} {value : α}
    (found : dictionary.get? key = some value) : key ∈ dictionary.keys :=
  List.mem_map.mpr ⟨(key, value), mem_of_get? found, rfl⟩

def contains (dictionary : Dictionary α) (key : String) : Bool :=
  (dictionary.get? key).isSome

def insert (dictionary : Dictionary α) (key : String) (value : α) : Dictionary α :=
  ⟨insertEntry key value dictionary.entries,
    insertEntry_ordered key value dictionary.ordered⟩

/-- Of several entries with one key the last one counts. -/
def ofList (entries : List (String × α)) : Dictionary α :=
  entries.foldl (fun dictionary entry => dictionary.insert entry.1 entry.2) empty

def map (transform : α → β) (dictionary : Dictionary α) : Dictionary β :=
  ⟨dictionary.entries.map fun entry => (entry.1, transform entry.2),
    List.pairwise_map.mpr dictionary.ordered⟩

def filter (keep : String → Bool) (dictionary : Dictionary α) : Dictionary α :=
  ⟨dictionary.entries.filter fun entry => keep entry.1,
    dictionary.ordered.sublist List.filter_sublist⟩

/--
Lays one dictionary over another: a key of `upper` gets what `combine` makes of
the value below it, if there is one, and its own; all other keys keep theirs.
-/
def overlay (combine : Option α → α → α) (lower upper : Dictionary α) : Dictionary α :=
  upper.entries.foldl
    (fun result entry => result.insert entry.1 (combine (lower.get? entry.1) entry.2)) lower

end Dictionary

/-! ## Sets of names -/

abbrev NameSet := Dictionary Unit

namespace NameSet

def add (names : NameSet) (name : String) : NameSet := names.insert name ()

def ofNames (names : List String) : NameSet := names.foldl add ∅

def union (first second : NameSet) : NameSet :=
  Dictionary.overlay (fun _ own => own) first second

end NameSet

end ScriptLint
