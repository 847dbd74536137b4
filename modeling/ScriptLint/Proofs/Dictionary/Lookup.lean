import ScriptLint.Dictionary

/-!
# Look-up in dictionaries

A dictionary is known by its look-ups: two dictionaries with the same look-ups
are equal.  Each operation is described here by the look-ups in its result, so
that laws about dictionaries become laws about optional values.
-/

namespace ScriptLint.Dictionary

universe u v

variable {α : Type u} {β : Type v}

/-! ## Entry lists -/

theorem findEntry_insertEntry (key other : String) (value : α)
    (entries : List (String × α)) :
    findEntry other (insertEntry key value entries) =
      if key = other then some value else findEntry other entries := by
  induction entries with
  | nil => simp [insertEntry, findEntry]
  | cons entry rest ih =>
      rw [insertEntry]
      split
      · simp only [findEntry]
      · split
        · rename_i same
          simp only [findEntry, ← same]
          split <;> rfl
        · rename_i different
          simp only [findEntry, ih]
          by_cases isKey : key = other
          · have notEntry : entry.1 ≠ other := fun same => different (isKey.trans same.symm)
            simp [isKey, notEntry]
          · simp [isKey]

theorem findEntry_eq_none_of_lt {key : String} {entries : List (String × α)}
    (less : ∀ entry ∈ entries, key < entry.1) : findEntry key entries = none := by
  induction entries with
  | nil => rfl
  | cons entry rest ih =>
      have different : entry.1 ≠ key := by
        intro same
        exact String.lt_irrefl key (same ▸ less entry List.mem_cons_self)
      rw [findEntry, if_neg different]
      exact ih fun other member => less other (List.mem_cons_of_mem _ member)

theorem findEntry_of_mem {key : String} {value : α} {entries : List (String × α)}
    (ordered : entries.Pairwise (fun earlier later => earlier.1 < later.1))
    (member : (key, value) ∈ entries) : findEntry key entries = some value := by
  induction entries with
  | nil => cases member
  | cons entry rest ih =>
      obtain ⟨headLess, restOrdered⟩ := List.pairwise_cons.mp ordered
      rcases List.mem_cons.mp member with same | inRest
      · simp [findEntry, ← same]
      · have different : entry.1 ≠ key := by
          intro same
          exact String.lt_irrefl key (same ▸ headLess (key, value) inRest)
        rw [findEntry, if_neg different]
        exact ih restOrdered inRest

theorem eq_of_findEntry_eq {first second : List (String × α)}
    (firstOrdered : first.Pairwise (fun earlier later => earlier.1 < later.1))
    (secondOrdered : second.Pairwise (fun earlier later => earlier.1 < later.1))
    (agree : ∀ key, findEntry key first = findEntry key second) : first = second := by
  induction first generalizing second with
  | nil =>
      cases second with
      | nil => rfl
      | cons entry rest => simpa [findEntry] using agree entry.1
  | cons head tail ih =>
      cases second with
      | nil => simpa [findEntry] using agree head.1
      | cons entry rest =>
          obtain ⟨headLess, tailOrdered⟩ := List.pairwise_cons.mp firstOrdered
          obtain ⟨entryLess, restOrdered⟩ := List.pairwise_cons.mp secondOrdered
          have headFound : head ∈ entry :: rest :=
            mem_of_findEntry ((agree head.1).symm.trans (if_pos rfl))
          have entryFound : entry ∈ head :: tail :=
            mem_of_findEntry ((agree entry.1).trans (if_pos rfl))
          have sameHead : head = entry := by
            rcases List.mem_cons.mp headFound with same | later
            · exact same
            · rcases List.mem_cons.mp entryFound with same | earlier
              · exact same.symm
              · have less := String.lt_trans (entryLess _ later) (headLess _ earlier)
                exact absurd less (String.lt_irrefl _)
          subst sameHead
          congr 1
          apply ih tailOrdered restOrdered
          intro key
          by_cases isHead : head.1 = key
          · subst isHead
            rw [findEntry_eq_none_of_lt headLess, findEntry_eq_none_of_lt entryLess]
          · simpa [findEntry, isHead] using agree key

/-! ## Look-ups determine a dictionary -/

@[ext] theorem ext_get? {first second : Dictionary α}
    (agree : ∀ key, first.get? key = second.get? key) : first = second := by
  cases first with
  | mk firstEntries firstOrdered =>
      cases second with
      | mk secondEntries secondOrdered =>
          have same : firstEntries = secondEntries :=
            eq_of_findEntry_eq firstOrdered secondOrdered agree
          subst same
          rfl

theorem get?_eq_some_iff {dictionary : Dictionary α} {key : String} {value : α} :
    dictionary.get? key = some value ↔ (key, value) ∈ dictionary.entries :=
  ⟨mem_of_get?, findEntry_of_mem dictionary.ordered⟩

theorem mem_keys_iff {dictionary : Dictionary α} {key : String} :
    key ∈ dictionary.keys ↔ dictionary.contains key = true := by
  simp only [keys, contains, Option.isSome_iff_exists, get?_eq_some_iff, List.mem_map]
  constructor
  · rintro ⟨⟨other, value⟩, member, rfl⟩
    exact ⟨value, member⟩
  · rintro ⟨value, member⟩
    exact ⟨(key, value), member, rfl⟩

/-! ## Look-ups after each operation -/

@[simp] theorem get?_empty (key : String) : (∅ : Dictionary α).get? key = none := rfl

@[simp] theorem get?_insert (dictionary : Dictionary α) (key other : String) (value : α) :
    (dictionary.insert key value).get? other =
      if key = other then some value else dictionary.get? other :=
  findEntry_insertEntry key other value dictionary.entries

@[simp] theorem get?_map (transform : α → β) (dictionary : Dictionary α) (key : String) :
    (dictionary.map transform).get? key = (dictionary.get? key).map transform := by
  have onEntries (entries : List (String × α)) :
      findEntry key (entries.map fun entry => (entry.1, transform entry.2)) =
        (findEntry key entries).map transform := by
    induction entries with
    | nil => rfl
    | cons entry rest ih => by_cases same : entry.1 = key <;> simp [findEntry, same, ih]
  exact onEntries dictionary.entries

@[simp] theorem get?_filter (keep : String → Bool) (dictionary : Dictionary α) (key : String) :
    (dictionary.filter keep).get? key = if keep key then dictionary.get? key else none := by
  have onEntries (entries : List (String × α)) :
      findEntry key (entries.filter fun entry => keep entry.1) =
        if keep key then findEntry key entries else none := by
    induction entries with
    | nil => simp [findEntry]
    | cons entry rest ih =>
        by_cases same : entry.1 = key
        · by_cases kept : keep key = true <;> simp [findEntry, same, kept, ih]
        · by_cases kept : keep entry.1 = true <;> simp [findEntry, same, kept, ih]
  exact onEntries dictionary.entries

theorem get?_foldl_insert (combine : String → α → β) {entries : List (String × α)}
    (ordered : entries.Pairwise (fun earlier later => earlier.1 < later.1))
    (start : Dictionary β) (key : String) :
    (entries.foldl (fun result entry => result.insert entry.1 (combine entry.1 entry.2))
        start).get? key =
      ((findEntry key entries).map (combine key)).or (start.get? key) := by
  induction entries generalizing start with
  | nil => rfl
  | cons entry rest ih =>
      obtain ⟨headLess, restOrdered⟩ := List.pairwise_cons.mp ordered
      rw [List.foldl_cons, ih restOrdered, get?_insert, findEntry]
      by_cases same : entry.1 = key
      · subst same
        simp [findEntry_eq_none_of_lt headLess]
      · simp [same]

@[simp] theorem get?_overlay (combine : Option α → α → α) (lower upper : Dictionary α)
    (key : String) :
    (overlay combine lower upper).get? key =
      ((upper.get? key).map (combine (lower.get? key))).or (lower.get? key) :=
  get?_foldl_insert (fun name => combine (lower.get? name)) upper.ordered lower key

@[simp] theorem contains_insert (dictionary : Dictionary α) (key other : String) (value : α) :
    (dictionary.insert key value).contains other =
      (decide (key = other) || dictionary.contains other) := by
  by_cases same : key = other <;> simp [contains, same]

theorem contains_overlay (combine : Option α → α → α) (lower upper : Dictionary α)
    (key : String) :
    (overlay combine lower upper).contains key =
      (lower.contains key || upper.contains key) := by
  cases below : lower.get? key <;> cases above : upper.get? key <;>
    simp [contains, below, above]

/-! ## Dictionaries made from lists -/

/-- Of the entries of a list with one key the last counts. -/
theorem get?_ofList (entries : List (String × α)) (key : String) :
    (ofList entries).get? key = (entries.reverse.find? (·.1 = key)).map (·.2) := by
  have folded (start : Dictionary α) :
      (entries.foldl (fun dictionary entry => dictionary.insert entry.1 entry.2) start).get? key =
        ((entries.reverse.find? (·.1 = key)).map (·.2)).or (start.get? key) := by
    induction entries generalizing start with
    | nil => rfl
    | cons entry rest ih =>
        rw [List.foldl_cons, ih, get?_insert, List.reverse_cons, List.find?_append]
        cases rest.reverse.find? (·.1 = key) with
        | some last => simp
        | none => by_cases same : entry.1 = key <;> simp [same]
  rw [ofList, folded]
  exact Option.or_none

theorem mem_of_get?_ofList {entries : List (String × α)} {key : String} {value : α}
    (found : (ofList entries).get? key = some value) : (key, value) ∈ entries := by
  rw [get?_ofList, Option.map_eq_some_iff] at found
  obtain ⟨entry, last, rfl⟩ := found
  have same : entry.1 = key := by simpa using List.find?_some last
  subst same
  exact List.mem_reverse.mp (List.mem_of_find?_eq_some last)

theorem contains_ofList_of_mem {entries : List (String × α)} {key : String} {value : α}
    (member : (key, value) ∈ entries) : (ofList entries).contains key = true := by
  rw [contains, get?_ofList, Option.isSome_map, List.find?_isSome]
  exact ⟨(key, value), List.mem_reverse.mpr member, by simp⟩

theorem get?_ofList_of_mem {entries : List (String × α)} {key : String} {value : α}
    (member : (key, value) ∈ entries) (unique : ∀ other, (key, other) ∈ entries → other = value) :
    (ofList entries).get? key = some value := by
  obtain ⟨other, found⟩ := Option.isSome_iff_exists.mp (contains_ofList_of_mem member)
  rw [found, unique other (mem_of_get?_ofList found)]

theorem get?_ofList_eq_none {entries : List (String × α)} {key : String}
    (absent : ∀ value, (key, value) ∉ entries) : (ofList entries).get? key = none := by
  rw [Option.eq_none_iff_forall_ne_some]
  intro value found
  exact absent value (mem_of_get?_ofList found)

theorem get?_ofList_eq_some_iff {entries : List (String × α)}
    (functional : ∀ key value other, (key, value) ∈ entries → (key, other) ∈ entries →
      value = other) {key : String} {value : α} :
    (ofList entries).get? key = some value ↔ (key, value) ∈ entries := by
  refine ⟨mem_of_get?_ofList, fun member => get?_ofList_of_mem member ?_⟩
  intro other alsoMember
  exact functional key other value alsoMember member

theorem ofList_entries (dictionary : Dictionary α) : ofList dictionary.entries = dictionary := by
  ext1 key
  have folded := get?_foldl_insert (fun _ value => value) dictionary.ordered empty key
  rw [ofList, folded]
  simp [empty, get?, findEntry]

theorem isEmpty_iff {dictionary : Dictionary α} :
    dictionary.isEmpty = true ↔ ∀ key, dictionary.get? key = none := by
  rw [isEmpty, List.isEmpty_iff]
  constructor
  · intro empty key
    rw [get?, empty]
    rfl
  · intro absent
    apply List.eq_nil_iff_forall_not_mem.mpr
    rintro ⟨key, value⟩ member
    have found := get?_eq_some_iff.mpr member
    rw [absent key] at found
    cases found

theorem eq_empty_of_isEmpty {dictionary : Dictionary α} (empty : dictionary.isEmpty = true) :
    ∅ = dictionary := by
  ext1 key
  rw [isEmpty_iff.mp empty key, get?_empty]

end ScriptLint.Dictionary

namespace ScriptLint.NameSet

theorem ext_contains {first second : NameSet}
    (agree : ∀ name, first.contains name = true ↔ second.contains name = true) :
    first = second := by
  ext1 name
  have same := agree name
  rw [Dictionary.contains, Dictionary.contains] at same
  cases inFirst : first.get? name <;> cases inSecond : second.get? name <;>
    simp [inFirst, inSecond] at same ⊢

theorem ofNames_keys (names : NameSet) : ofNames names.keys = names := by
  rw [ofNames, Dictionary.keys, List.foldl_map]
  exact names.ofList_entries

theorem contains_ofNames (names : List String) (name : String) :
    (ofNames names).contains name = true ↔ name ∈ names := by
  have folded (start : NameSet) :
      (names.foldl add start).contains name = true ↔ name ∈ names ∨ start.contains name = true := by
    induction names generalizing start with
    | nil => simp
    | cons first rest ih =>
        rw [List.foldl_cons, ih, add, Dictionary.contains_insert, List.mem_cons]
        simp only [Bool.or_eq_true, decide_eq_true_eq]
        rw [or_left_comm, or_assoc, eq_comm]
  rw [ofNames, folded]
  exact or_iff_left (by simp [Dictionary.contains])

end ScriptLint.NameSet
