import ScriptLint.Proofs.Lexical.Tables

/-!
# Counting uses by number

After a walk, each use of a name is looked up in the tables: from its scope outwards, to
the first scope that has the name among its names.  The number that stands there is that
of a binding, whose reads or writes are counted.  From sound tables no look-up
leaves the tables or goes on for ever, and the counts and the unresolved uses are those
of the tracker.
-/

namespace ScriptLint.Lexical

/-! ## Looking up and counting -/

def lookup (scopes : List ScopeEntry) (scope : Nat) (name : String) :
    Except Failure (Option Nat) :=
  match access scopes scope with
  | .error failure => .error failure
  | .ok entry =>
      match entry.names.get? name with
      | some index => .ok (some index)
      | none =>
          match entry.parent with
          | none => .ok none
          | some around =>
              if around < scope then lookup scopes around name
              else .error (.panicked "scopes do not end")
termination_by scope

def BindingEntry.counting (entry : BindingEntry) : IdentifierRole → BindingEntry
  | .assignment => { entry with writes := entry.writes + 1 }
  | _ => { entry with reads := entry.reads + 1 }

structure Tally where
  bindings : List BindingEntry
  unresolved : List ReferenceEntry

namespace Tally

def add (scopes : List ScopeEntry) (tally : Tally) (reference : ReferenceEntry) :
    Except Failure Tally :=
  match lookup scopes reference.scope reference.name with
  | .error failure => .error failure
  | .ok none => .ok { tally with unresolved := tally.unresolved ++ [reference] }
  | .ok (some index) =>
      match access tally.bindings index with
      | .error failure => .error failure
      | .ok entry =>
          .ok { tally with bindings := tally.bindings.set index (entry.counting reference.role) }

end Tally

namespace Tables

def resolve (tables : Tables) : Except Failure Tally :=
  tables.references.foldlM (Tally.add tables.scopes) ⟨tables.bindings, []⟩

/-! ## Look-up in sound tables -/

def indexIn? (tables : Tables) (name : String) (number : Nat) : Option Nat :=
  tables.scopes[number]?.bind fun entry => entry.names.get? name

def index? (tables : Tables) (reference : ReferenceEntry) : Option Nat :=
  (chain tables.frames reference.scope).findSome? (tables.indexIn? reference.name)

variable {tables : Tables}

theorem lookup_eq (sound : tables.Sound) (name : String) {number : Nat}
    (inTable : number < tables.frames.length) :
    lookup tables.scopes number name =
      .ok ((chain tables.frames number).findSome? (tables.indexIn? name)) := by
  -- Scopes further out have smaller numbers, so the induction is on the number itself.
  induction number using Nat.strongRecOn with
  | ind number ih =>
      obtain ⟨entry, found⟩ := tables.exists_scope inTable
      have isFrame := getElem?_frames found
      have here : tables.indexIn? name number = entry.names.get? name := by
        rw [indexIn?, found, Option.bind_some]
      rw [lookup, access_eq_ok found, chain, isFrame]
      cases isParent : entry.parent with
      | none => cases bound : entry.names.get? name <;> simp [isParent, here, bound]
      | some around =>
          have smaller := sound.earlier number entry.toFrame around isFrame isParent
          have outside := ih around smaller (Nat.lt_trans smaller inTable)
          cases bound : entry.names.get? name <;> simp [isParent, smaller, here, bound, outside]

theorem exists_binding_of_indexIn? (sound : tables.Sound) {name : String} {number index : Nat}
    (here : tables.indexIn? name number = some index) :
    ∃ binding, tables.bindings[index]? = some binding := by
  obtain ⟨entry, found, bound⟩ := Option.bind_eq_some_iff.mp here
  obtain ⟨binding, isBinding, -⟩ := (sound.names number entry name index found).mp bound
  exact ⟨binding, isBinding⟩

theorem exists_binding_of_index? (sound : tables.Sound) {reference : ReferenceEntry} {index : Nat}
    (isIndex : tables.index? reference = some index) :
    ∃ binding, tables.bindings[index]? = some binding := by
  obtain ⟨number, -, here⟩ := List.exists_of_findSome?_eq_some isIndex
  exact exists_binding_of_indexIn? sound here

theorem findSome?_bind {α β γ : Type} {items : List α} {first : α → Option β}
    {second : β → Option γ} {both : α → Option γ}
    (answers : ∀ item ∈ items, ∀ value, first item = some value → (second value).isSome = true)
    (agree : ∀ item ∈ items, (first item).bind second = both item) :
    (items.findSome? first).bind second = items.findSome? both := by
  induction items with
  | nil => rfl
  | cons item rest ih =>
      have others := ih (fun other member => answers other (List.mem_cons_of_mem _ member))
        fun other member => agree other (List.mem_cons_of_mem _ member)
      have same := agree item List.mem_cons_self
      rw [List.findSome?_cons, List.findSome?_cons, ← same]
      cases here : first item with
      | none => exact others
      | some value =>
          obtain ⟨result, isResult⟩ :=
            Option.isSome_iff_exists.mp (answers item List.mem_cons_self value here)
          simp [isResult]

theorem lookup?_eq (sound : tables.Sound) {reference : ReferenceEntry}
    (inTable : reference.scope < tables.frames.length) :
    tables.tracker.lookup? (reference.reference tables.frames) =
      (tables.index? reference).bind fun index =>
        tables.bindings[index]?.map (BindingEntry.binding tables.frames) := by
  have inChain : ∀ number ∈ chain tables.frames reference.scope,
      number < tables.frames.length := fun number member =>
    Nat.lt_of_le_of_lt (mem_chain_le member) inTable
  have answers : ∀ number ∈ chain tables.frames reference.scope, ∀ index,
      tables.indexIn? reference.name number = some index →
        (tables.bindings[index]?.map (BindingEntry.binding tables.frames)).isSome = true := by
    intro number _ index here
    obtain ⟨binding, isBinding⟩ := exists_binding_of_indexIn? sound here
    simp [isBinding]
  rw [Tracker.lookup?, ReferenceEntry.reference, List.findSome?_map, index?]
  refine (findSome?_bind answers ?_).symm
  intro number member
  obtain ⟨entry, found⟩ := tables.exists_scope (inChain number member)
  rw [indexIn?, found, Option.bind_some]
  exact (sound.declared?_eq found reference.name).symm

theorem refersTo_iff (sound : tables.Sound) {reference : ReferenceEntry}
    (member : reference ∈ tables.references) {index : Nat} {binding : BindingEntry}
    (isBinding : tables.bindings[index]? = some binding) :
    (∃ target, tables.tracker.lookup? (reference.reference tables.frames) = some target ∧
        target.scope = (binding.binding tables.frames).scope ∧
        target.name = (binding.binding tables.frames).name) ↔
      tables.index? reference = some index := by
  have inBindings := List.mem_of_getElem? isBinding
  have inTable := sound.bindings binding inBindings
  rw [lookup?_eq sound (sound.references reference member)]
  constructor
  · rintro ⟨target, isTarget, same⟩
    obtain ⟨other, isIndex, isOther⟩ := Option.bind_eq_some_iff.mp isTarget
    obtain ⟨listed, isListed, rfl⟩ := Option.map_eq_some_iff.mp isOther
    obtain ⟨isScope, isName⟩ :=
      (sound.isFor_iff inTable binding.name (List.mem_of_getElem? isListed)).mp same
    obtain ⟨entry, found⟩ := tables.exists_scope inTable
    have first := (sound.names _ entry binding.name other found).mpr
      ⟨listed, isListed, isScope, isName⟩
    have second := (sound.names _ entry binding.name index found).mpr
      ⟨binding, isBinding, rfl, rfl⟩
    rw [isIndex, ← first, second]
  · intro isIndex
    exact ⟨_, by rw [isIndex, Option.bind_some, isBinding, Option.map_some], rfl, rfl⟩

/-! ## Counts -/

def countsRead (tables : Tables) (index : Nat) (reference : ReferenceEntry) : Bool :=
  tables.index? reference = some index && reference.role ≠ .assignment

def countsWrite (tables : Tables) (index : Nat) (reference : ReferenceEntry) : Bool :=
  tables.index? reference = some index && reference.role = .assignment

def counted (tables : Tables) (uses : List ReferenceEntry) (index : Nat)
    (binding : BindingEntry) : BindingEntry :=
  { binding with
    reads := uses.countP (tables.countsRead index)
    writes := uses.countP (tables.countsWrite index) }

def tallyOf (tables : Tables) (uses : List ReferenceEntry) : Tally :=
  ⟨tables.bindings.mapIdx (tables.counted uses),
    uses.filter fun reference => (tables.index? reference).isNone⟩

theorem tallyOf_nil (sound : tables.Sound) : tables.tallyOf [] = ⟨tables.bindings, []⟩ := by
  have same : tables.bindings.mapIdx (tables.counted []) = tables.bindings := by
    apply List.ext_getElem?
    intro index
    rw [List.getElem?_mapIdx]
    cases isBinding : tables.bindings[index]? with
    | none => rfl
    | some binding =>
        obtain ⟨unread, unwritten⟩ := sound.uncounted binding (List.mem_of_getElem? isBinding)
        obtain ⟨name, kind, scope, position, initialized, reads, writes⟩ := binding
        obtain rfl : reads = 0 := unread
        obtain rfl : writes = 0 := unwritten
        rfl
  rw [tallyOf, same]
  rfl

theorem counted_append (tables : Tables) (uses : List ReferenceEntry)
    (reference : ReferenceEntry) (index : Nat) (binding : BindingEntry) :
    tables.counted (uses ++ [reference]) index binding =
      if tables.index? reference = some index then
        (tables.counted uses index binding).counting reference.role
      else tables.counted uses index binding := by
  obtain ⟨name, role, scope, position⟩ := reference
  by_cases refers : tables.index? ⟨name, role, scope, position⟩ = some index
  · cases role <;> simp [counted, countsRead, countsWrite, refers, BindingEntry.counting]
  · simp [counted, countsRead, countsWrite, refers]

theorem add_tallyOf (sound : tables.Sound) (uses : List ReferenceEntry)
    {reference : ReferenceEntry} (member : reference ∈ tables.references) :
    (tables.tallyOf uses).add tables.scopes reference =
      .ok (tables.tallyOf (uses ++ [reference])) := by
  have found : lookup tables.scopes reference.scope reference.name =
      .ok (tables.index? reference) :=
    lookup_eq sound reference.name (sound.references reference member)
  rw [Tally.add, found]
  cases isIndex : tables.index? reference with
  | none =>
      have same : tables.counted (uses ++ [reference]) = tables.counted uses := by
        funext index binding
        rw [counted_append, if_neg (by simp [isIndex])]
      simp [tallyOf, same, isIndex, List.filter_append]
  | some index =>
      obtain ⟨binding, isBinding⟩ := exists_binding_of_index? sound isIndex
      have accessed : access (tables.bindings.mapIdx (tables.counted uses)) index =
          .ok (tables.counted uses index binding) :=
        access_eq_ok (by rw [List.getElem?_mapIdx, isBinding, Option.map_some])
      have updated : (tables.bindings.mapIdx (tables.counted uses)).set index
            ((tables.counted uses index binding).counting reference.role) =
          tables.bindings.mapIdx (tables.counted (uses ++ [reference])) := by
        apply List.ext_getElem?
        intro other
        rw [List.getElem?_set, List.getElem?_mapIdx, List.getElem?_mapIdx, List.length_mapIdx]
        by_cases isOther : index = other
        · subst isOther
          have inTable := (List.getElem?_eq_some_iff.mp isBinding).1
          rw [if_pos rfl, if_pos inTable, isBinding, Option.map_some, counted_append,
            if_pos isIndex]
        · have unchanged : tables.counted (uses ++ [reference]) other =
              tables.counted uses other := by
            funext binding
            rw [counted_append, if_neg (by simp [isIndex, isOther])]
          rw [if_neg isOther, unchanged]
      simp [tallyOf, accessed, updated, isIndex, List.filter_append]

theorem resolve_eq (sound : tables.Sound) :
    tables.resolve = .ok (tables.tallyOf tables.references) := by
  -- The tally of the uses counted so far is known in closed form; each further use extends it.
  have continued (uses rest : List ReferenceEntry) (inTables : rest ⊆ tables.references) :
      rest.foldlM (Tally.add tables.scopes) (tables.tallyOf uses) =
        .ok (tables.tallyOf (uses ++ rest)) := by
    induction rest generalizing uses with
    | nil =>
        rw [List.append_nil]
        rfl
    | cons reference rest ih =>
        have first := add_tallyOf sound uses (inTables List.mem_cons_self)
        have others := ih (uses ++ [reference]) fun other member =>
          inTables (List.mem_cons_of_mem _ member)
        rw [List.append_assoc, List.singleton_append] at others
        rw [List.foldlM_cons, first]
        exact others
  have all := continued [] tables.references (List.Subset.refl _)
  rw [tallyOf_nil sound, List.nil_append] at all
  exact all

/-! ## Counts by number and by address -/

theorem resolutions_tracker (tables : Tables) :
    tables.tracker.resolutions = tables.references.map fun reference =>
      (reference.reference tables.frames,
        tables.tracker.lookup? (reference.reference tables.frames)) := by
  rw [Tracker.resolutions]
  exact List.map_map

theorem unresolved_tallyOf (sound : tables.Sound) :
    (tables.tallyOf tables.references).unresolved.map (ReferenceEntry.reference tables.frames) =
      tables.tracker.unresolved := by
  have unbound : ∀ reference ∈ tables.references, (tables.index? reference).isNone =
      (tables.tracker.lookup? (reference.reference tables.frames)).isNone := by
    intro reference member
    rw [lookup?_eq sound (sound.references reference member)]
    cases isIndex : tables.index? reference with
    | none => rfl
    | some index =>
        obtain ⟨binding, isBinding⟩ := exists_binding_of_index? sound isIndex
        simp [isBinding]
  rw [Tracker.unresolved, resolutions_tracker, List.filter_map, List.map_map, tallyOf,
    List.filter_congr unbound]
  rfl

theorem counted_eq (sound : tables.Sound) {index : Nat} {binding : BindingEntry}
    (isBinding : tables.bindings[index]? = some binding) :
    let entry := tables.counted tables.references index binding
    let usage : Usage := ⟨binding.binding tables.frames,
      Tracker.usesOf tables.tracker.resolutions (binding.binding tables.frames)⟩
    entry.reads = usage.reads ∧ entry.writes = usage.writes := by
  intro entry usage
  have uses : usage.uses = (tables.references.filter fun reference =>
      tables.index? reference = some index).map (ReferenceEntry.reference tables.frames) := by
    change Tracker.usesOf _ _ = _
    rw [Tracker.usesOf, resolutions_tracker, List.filter_map, List.map_map]
    congr 1
    apply List.filter_congr
    intro reference member
    rw [Bool.eq_iff_iff, decide_eq_true_eq, ← refersTo_iff sound member isBinding,
      Function.comp_apply]
    cases tables.tracker.lookup? (reference.reference tables.frames) <;> simp
  constructor
  · rw [Usage.reads, uses, List.countP_map, List.countP_filter]
    exact List.countP_congr fun reference _ => by
      rw [countsRead, Bool.and_comm]
      exact Iff.rfl
  · rw [Usage.writes, uses, List.countP_map, List.countP_filter]
    exact List.countP_congr fun reference _ => by
      rw [countsWrite, Bool.and_comm]
      exact Iff.rfl

/--
Over any tree, the tables are built and the uses counted without an access that has no
entry, and the result is that of the tracker.
-/
theorem resolve_ofTree (surroundings : Surroundings) (root : Node) :
    ∃ tables tally, ofTree surroundings root = .ok tables ∧ tables.resolve = .ok tally ∧
      tally.bindings.map (fun entry =>
          (entry.binding tables.frames, entry.reads, entry.writes)) =
        (Tracker.ofTree surroundings root).usages.map (fun usage =>
          (usage.binding, usage.reads, usage.writes)) ∧
      tally.unresolved.map (ReferenceEntry.reference tables.frames) =
        (Tracker.ofTree surroundings root).unresolved := by
  obtain ⟨tables, reached, sound, isTracker⟩ := sound_ofTree surroundings root
  refine ⟨tables, tables.tallyOf tables.references, reached, resolve_eq sound, ?_, ?_⟩
  · rw [← isTracker]
    apply List.ext_getElem?
    intro index
    simp only [tallyOf, Tracker.usages, tracker, List.getElem?_map, List.getElem?_mapIdx]
    cases isBinding : tables.bindings[index]? with
    | none => rfl
    | some binding =>
        obtain ⟨reads, writes⟩ := counted_eq sound isBinding
        exact congrArg some (Prod.ext rfl (Prod.ext reads writes))
  · rw [← isTracker]
    exact unresolved_tallyOf sound

end Tables

end ScriptLint.Lexical
