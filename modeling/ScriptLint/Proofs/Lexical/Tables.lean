import ScriptLint.Proofs.Dictionary.Lookup
import ScriptLint.Proofs.Lexical.Tracking

/-!
# Scopes by number

A tracker can keep its scopes and bindings in tables and know them by their numbers, so
that nothing has to be searched.  Then an access by a number that is not in the table
stops the rule, as does a chain of outer scopes that does not end.  Neither happens
over any tree: the numbers on the stack, in the scopes and in the references are always
those of entries, outer scopes have smaller numbers, and with addresses in place of
numbers the tables are the tracker.
-/

namespace ScriptLint.Lexical

/-! ## Tables -/

structure Frame where
  parent : Option Nat
  isFunction : Bool
  address : Address

structure ScopeEntry extends Frame where
  names : Dictionary Nat

structure BindingEntry where
  name : String
  kind : BindingKind
  scope : Nat
  position : Position
  initialized : Bool
  reads : Nat
  writes : Nat

structure ReferenceEntry where
  name : String
  role : IdentifierRole
  scope : Nat
  position : Position

structure Tables where
  scopes : List ScopeEntry
  stack : List Nat
  bindings : List BindingEntry
  references : List ReferenceEntry

def access {α : Type} (table : List α) (number : Nat) : Except Failure α :=
  match table[number]? with
  | some entry => .ok entry
  | none => .error (.panicked
      s!"index out of bounds: the len is {table.length} but the index is {number}")

theorem access_eq_ok {α : Type} {table : List α} {number : Nat} {entry : α}
    (found : table[number]? = some entry) : access table number = .ok entry := by
  rw [access, found]

namespace Tables

def start : Tables := ⟨[], [], [], []⟩

def frames (tables : Tables) : List Frame := tables.scopes.map (·.toFrame)

def push (tables : Tables) (address : Address) (isFunction : Bool) : Tables :=
  { tables with
    scopes := tables.scopes ++ [⟨⟨tables.stack.head?, isFunction, address⟩, ∅⟩]
    stack := tables.scopes.length :: tables.stack }

def nearestFunction? (scopes : List ScopeEntry) : List Nat → Except Failure (Option Nat)
  | [] => .ok none
  | number :: outer =>
      match access scopes number with
      | .error failure => .error failure
      | .ok entry =>
          if entry.isFunction then .ok (some number) else nearestFunction? scopes outer

def declarationOf? (tables : Tables) (context : Context) (current : Nat) :
    Except Failure (Option (BindingKind × Nat × Bool)) :=
  match context.parent? with
  | none => .ok none
  | some parent =>
      match parent.node.kind with
      | .variableDeclarator =>
          let declaration :=
            (context.grandparent?.bind (·.node.attributes.declaration)).getD .var
          let initialized := 1 < parent.node.children.length
          match declaration with
          | .var =>
              (nearestFunction? tables.scopes tables.stack).map fun target? =>
                target?.map fun target => (.variable .var, target, initialized)
          | block => .ok (some (.variable block, current, initialized))
      | .functionDeclaration =>
          (access tables.scopes current).map fun entry =>
            entry.parent.map fun around => (.function, around, true)
      | .parameter =>
          let index := Tracker.parameterIndex parent context.grandparent?
          .ok (some (.parameter index, current, true))
      | _ => .ok none

def declare (tables : Tables) (binding : BindingEntry) : Except Failure Tables :=
  match access tables.scopes binding.scope with
  | .error failure => .error failure
  | .ok entry =>
      if entry.names.contains binding.name then .ok tables
      else
        let names := entry.names.insert binding.name tables.bindings.length
        .ok { tables with
          bindings := tables.bindings ++ [binding]
          scopes := tables.scopes.set binding.scope { entry with names } }

def identifier (tables : Tables) (context : Context) (node : Node) : Except Failure Tables :=
  match node.name?, node.attributes.role, tables.stack with
  | some name, some .declaration, current :: _ =>
      match tables.declarationOf? context current with
      | .error failure => .error failure
      | .ok none => .ok tables
      | .ok (some (kind, scope, initialized)) =>
          tables.declare ⟨name, kind, scope, node.startPosition, initialized, 0, 0⟩
  | some _, some .property, _ => .ok tables
  | some name, some role, current :: _ =>
      .ok { tables with
        references := tables.references ++ [⟨name, role, current, node.startPosition⟩] }
  | _, _, _ => .ok tables

def enter (tables : Tables) (context : Context) (node : Node) : Except Failure Tables :=
  match Tracker.scopeOpened? node.kind context.parentKind? with
  | some isFunction => .ok (tables.push (Tracker.addressOf context) isFunction)
  | none => if node.kind = .identifier then tables.identifier context node else .ok tables

def exit (tables : Tables) (context : Context) (node : Node) : Tables :=
  match Tracker.scopeOpened? node.kind context.parentKind? with
  | some _ => { tables with stack := tables.stack.tail }
  | none => tables

def shown (surroundings : Surroundings) (tables : Tables) (event : Visit) :
    Except Failure Tables :=
  let context : Context := ⟨surroundings, event.target.index, event.ancestors⟩
  match event.phase with
  | .enter => tables.enter context event.target.node
  | .exit => .ok (tables.exit context event.target.node)

/-- The tables after a walk over a whole tree, unless a step of it fails. -/
def ofTree (surroundings : Surroundings) (root : Node) : Except Failure Tables :=
  (visits [] 0 root).foldlM (shown surroundings) start

end Tables

/-! ## Addresses in place of numbers -/

def chain (frames : List Frame) (number : Nat) : List Nat :=
  match frames[number]? with
  | none => []
  | some frame =>
      match frame.parent with
      | none => [number]
      | some around => if around < number then number :: chain frames around else [number]
termination_by number

def openIn (frames : List Frame) (number : Nat) : OpenScope :=
  match frames[number]? with
  | none => ⟨[], false⟩
  | some frame => ⟨frame.address, frame.isFunction⟩

def BindingEntry.binding (frames : List Frame) (entry : BindingEntry) : Binding :=
  ⟨entry.name, entry.kind, (openIn frames entry.scope).address, entry.position,
    entry.initialized⟩

def ReferenceEntry.reference (frames : List Frame) (entry : ReferenceEntry) : Reference :=
  ⟨entry.name, entry.role,
    (chain frames entry.scope).map fun number => (openIn frames number).address, entry.position⟩

def Tables.tracker (tables : Tables) : Tracker where
  openScopes := tables.stack.map (openIn tables.frames)
  firstScope := tables.frames.head?.map (·.address)
  bindings := tables.bindings.map (BindingEntry.binding tables.frames)
  references := tables.references.map (ReferenceEntry.reference tables.frames)

/-! ## Frames -/

def Earlier (frames : List Frame) : Prop :=
  ∀ (number : Nat) (frame : Frame) (around : Nat), frames[number]? = some frame →
    frame.parent = some around → around < number

theorem getElem?_concat_eq_some {α : Type} {table : List α} {last entry : α} {number : Nat}
    (found : (table ++ [last])[number]? = some entry) :
    table[number]? = some entry ∨ number = table.length ∧ last = entry := by
  rcases Nat.lt_trichotomy number table.length with inTable | rfl | outside
  · rw [List.getElem?_append_left inTable] at found
    exact .inl found
  · rw [List.getElem?_concat_length] at found
    exact .inr ⟨rfl, Option.some.inj found⟩
  · rw [List.getElem?_eq_none (by simp; omega)] at found
    cases found

theorem exists_getElem?_concat {α : Type} {table : List α} {last : α} {number : Nat}
    {property : α → Prop} :
    (∃ entry, (table ++ [last])[number]? = some entry ∧ property entry) ↔
      (∃ entry, table[number]? = some entry ∧ property entry) ∨
        number = table.length ∧ property last := by
  constructor
  · rintro ⟨entry, found, holds⟩
    rcases getElem?_concat_eq_some found with old | ⟨isLast, rfl⟩
    · exact .inl ⟨entry, old, holds⟩
    · exact .inr ⟨isLast, holds⟩
  · rintro (⟨entry, found, holds⟩ | ⟨rfl, holds⟩)
    · have inTable := (List.getElem?_eq_some_iff.mp found).1
      exact ⟨entry, (List.getElem?_append_left inTable).trans found, holds⟩
    · exact ⟨last, List.getElem?_concat_length, holds⟩

theorem Earlier.concat {frames : List Frame} (earlier : Earlier frames) {frame : Frame}
    (isParent : ∀ around ∈ frame.parent, around < frames.length) :
    Earlier (frames ++ [frame]) := by
  intro number entry around found outer
  rcases getElem?_concat_eq_some found with old | ⟨rfl, rfl⟩
  · exact earlier number entry around old outer
  · exact isParent around outer

theorem openIn_append {frames : List Frame} (frame : Frame) {number : Nat}
    (inTable : number < frames.length) :
    openIn (frames ++ [frame]) number = openIn frames number := by
  rw [openIn, openIn, List.getElem?_append_left inTable]

theorem mem_chain_le {frames : List Frame} {number other : Nat}
    (member : other ∈ chain frames number) : other ≤ number := by
  induction number using Nat.strongRecOn with
  | ind number ih =>
      rw [chain] at member
      split at member
      · cases member
      · split at member
        · exact Nat.le_of_eq (List.mem_singleton.mp member)
        · split at member
          · rename_i around _ smaller
            rcases List.mem_cons.mp member with rfl | outer
            · exact Nat.le_refl _
            · exact Nat.le_of_lt (Nat.lt_of_le_of_lt (ih around smaller outer) smaller)
          · exact Nat.le_of_eq (List.mem_singleton.mp member)

theorem chain_eq_cons {frames : List Frame} {number first : Nat} {outer : List Nat}
    (isChain : chain frames number = first :: outer) :
    first = number ∧ (outer = [] ∨ ∃ around < number, chain frames around = outer) := by
  rw [chain] at isChain
  split at isChain
  · cases isChain
  · split at isChain
    · cases isChain
      exact ⟨rfl, .inl rfl⟩
    · split at isChain
      · rename_i around _ smaller
        cases isChain
        exact ⟨rfl, .inr ⟨around, smaller, rfl⟩⟩
      · cases isChain
        exact ⟨rfl, .inl rfl⟩

theorem head?_chain {frames : List Frame} {number : Nat} (inTable : number < frames.length) :
    (chain frames number).head? = some number := by
  rw [chain, List.getElem?_eq_getElem inTable]
  dsimp only
  split
  · rfl
  · split <;> rfl

theorem chain_append {frames : List Frame} (frame : Frame) {number : Nat}
    (inTable : number < frames.length) :
    chain (frames ++ [frame]) number = chain frames number := by
  induction number using Nat.strongRecOn with
  | ind number ih =>
      rw [chain, chain, List.getElem?_append_left inTable]
      split
      · rfl
      · split
        · rfl
        · split
          · rename_i around _ smaller
            rw [ih around smaller (Nat.lt_trans smaller inTable)]
          · rfl

theorem BindingEntry.binding_append {frames : List Frame} (frame : Frame) {entry : BindingEntry}
    (inTable : entry.scope < frames.length) :
    entry.binding (frames ++ [frame]) = entry.binding frames := by
  rw [binding, binding, openIn_append frame inTable]

theorem ReferenceEntry.reference_append {frames : List Frame} (frame : Frame)
    {entry : ReferenceEntry} (inTable : entry.scope < frames.length) :
    entry.reference (frames ++ [frame]) = entry.reference frames := by
  rw [reference, reference, chain_append frame inTable]
  congr 1
  apply List.map_congr_left
  intro number member
  rw [openIn_append frame (Nat.lt_of_le_of_lt (mem_chain_le member) inTable)]

namespace Tables

theorem getElem?_frames {tables : Tables} {number : Nat} {entry : ScopeEntry}
    (found : tables.scopes[number]? = some entry) :
    tables.frames[number]? = some entry.toFrame := by
  rw [frames, List.getElem?_map, found]
  rfl

theorem exists_scope (tables : Tables) {number : Nat} (inTable : number < tables.frames.length) :
    ∃ entry, tables.scopes[number]? = some entry := by
  have inScopes : number < tables.scopes.length := by simpa [frames] using inTable
  exact ⟨tables.scopes[number], List.getElem?_eq_getElem inScopes⟩

theorem frames_push (tables : Tables) (address : Address) (isFunction : Bool) :
    (tables.push address isFunction).frames =
      tables.frames ++ [⟨tables.stack.head?, isFunction, address⟩] := by
  simp [push, frames]

theorem frames_set {tables : Tables} {number : Nat} {entry : ScopeEntry}
    (found : tables.scopes[number]? = some entry) (names : Dictionary Nat) :
    (tables.scopes.set number { entry with names }).map (·.toFrame) = tables.frames := by
  rw [List.map_set]
  apply List.ext_getElem?
  intro other
  rw [List.getElem?_set, frames, List.getElem?_map, List.length_map]
  split
  · rename_i same
    subst same
    rw [found, if_pos (List.getElem?_eq_some_iff.mp found).1]
    rfl
  · rfl

theorem nearestFunction?_eq (tables : Tables) {numbers : List Nat}
    (inTable : ∀ number ∈ numbers, number < tables.frames.length) :
    nearestFunction? tables.scopes numbers =
      .ok (numbers.find? fun number => (openIn tables.frames number).isFunction) := by
  induction numbers with
  | nil => rfl
  | cons number outer ih =>
      obtain ⟨entry, found⟩ := tables.exists_scope (inTable number List.mem_cons_self)
      have opened : openIn tables.frames number = ⟨entry.address, entry.isFunction⟩ := by
        rw [openIn, getElem?_frames found]
      have outside := ih fun other member => inTable other (List.mem_cons_of_mem _ member)
      rw [nearestFunction?, access_eq_ok found, List.find?_cons, opened]
      cases isFunction : entry.isFunction with
      | true => simp [isFunction]
      | false => simpa [isFunction] using outside

/-! ## Sound tables -/

/-- All numbers are those of entries, and the names of a scope are those of its bindings. -/
structure Sound (tables : Tables) : Prop where
  earlier : Earlier tables.frames
  stack : ∀ number ∈ tables.stack.head?,
    number < tables.frames.length ∧ chain tables.frames number = tables.stack
  bindings : ∀ entry ∈ tables.bindings, entry.scope < tables.frames.length
  uncounted : ∀ entry ∈ tables.bindings, entry.reads = 0 ∧ entry.writes = 0
  references : ∀ entry ∈ tables.references, entry.scope < tables.frames.length
  distinct : (tables.frames.map (·.address)).Nodup
  names : ∀ (number : Nat) (entry : ScopeEntry) (name : String) (index : Nat),
    tables.scopes[number]? = some entry →
      (entry.names.get? name = some index ↔ ∃ binding, tables.bindings[index]? = some binding ∧
        binding.scope = number ∧ binding.name = name)

/-- The step succeeds and leaves sound tables, with the given frames, that are the given tracker. -/
def ComesTo (step : Except Failure Tables) (frames : List Frame) (tracker : Tracker) : Prop :=
  ∃ next, step = .ok next ∧ next.Sound ∧ next.frames = frames ∧ next.tracker = tracker

namespace Sound

variable {tables : Tables}

theorem start : Tables.start.Sound where
  earlier _ _ _ found := by cases found
  stack _ member := by cases member
  bindings _ member := by cases member
  uncounted _ member := by cases member
  references _ member := by cases member
  distinct := .nil
  names _ _ _ _ found := by cases found

theorem lt_of_mem_stack (sound : tables.Sound) {number : Nat} (member : number ∈ tables.stack) :
    number < tables.frames.length := by
  cases open? : tables.stack with
  | nil =>
      rw [open?] at member
      cases member
  | cons current outer =>
      obtain ⟨inTable, isStack⟩ := sound.stack current (by simp [open?])
      rw [← isStack] at member
      exact Nat.lt_of_le_of_lt (mem_chain_le member) inTable

/-! ### Opening and closing scopes -/

theorem chain_push (sound : tables.Sound) (address : Address) (isFunction : Bool) :
    chain (tables.frames ++ [⟨tables.stack.head?, isFunction, address⟩]) tables.frames.length =
      tables.frames.length :: tables.stack := by
  rw [chain, List.getElem?_concat_length]
  cases open? : tables.stack with
  | nil => rfl
  | cons current outer =>
      obtain ⟨inTable, isStack⟩ := sound.stack current (by simp [open?])
      simp only [List.head?_cons, inTable, if_true]
      rw [chain_append _ inTable, isStack, open?]

theorem push (sound : tables.Sound) {address : Address} (isFunction : Bool)
    (fresh : address ∉ tables.frames.map (·.address)) :
    (tables.push address isFunction).Sound ∧
      (tables.push address isFunction).tracker = tables.tracker.openScope address isFunction := by
  have frames := frames_push tables address isFunction
  have count : tables.scopes.length = tables.frames.length := by simp [Tables.frames]
  have inStack : ∀ number ∈ tables.stack, number < tables.frames.length :=
    fun number member => sound.lt_of_mem_stack member
  constructor
  · constructor
    · rw [frames]
      exact sound.earlier.concat fun around isHead => (sound.stack around isHead).1
    · intro number isHead
      have isNew : tables.frames.length = number := by
        rw [← count]
        simpa [Tables.push] using isHead
      subst isNew
      rw [frames, sound.chain_push]
      exact ⟨by simp, by simp [Tables.push, count]⟩
    · intro entry member
      have inTable := sound.bindings entry member
      rw [frames, List.length_append]
      omega
    · exact sound.uncounted
    · intro entry member
      have inTable := sound.references entry member
      rw [frames, List.length_append]
      omega
    · rw [frames, List.map_append, List.map_singleton]
      exact List.nodup_append.mpr ⟨sound.distinct, by simp, by
        simpa using fun entry member same => fresh (List.mem_map.mpr ⟨entry, member, same⟩)⟩
    · intro number entry name index found
      rcases getElem?_concat_eq_some found with old | ⟨rfl, rfl⟩
      · exact sound.names number entry name index old
      · constructor
        · intro bound
          cases bound
        · rintro ⟨binding, isBinding, isScope, -⟩
          have inTable := sound.bindings binding (List.mem_of_getElem? isBinding)
          omega
  · have opened : openIn (tables.frames ++ [⟨tables.stack.head?, isFunction, address⟩])
        tables.frames.length = ⟨address, isFunction⟩ := by
      rw [openIn, List.getElem?_concat_length]
    rw [Tables.tracker, frames, Tracker.openScope, Tracker.mk.injEq]
    refine ⟨?_, ?_, ?_, ?_⟩
    · rw [Tables.push, List.map_cons, count, opened, List.cons.injEq]
      exact ⟨rfl, List.map_congr_left fun number member => openIn_append _ (inStack number member)⟩
    · rw [List.head?_append, Option.map_or]
      rfl
    · exact List.map_congr_left fun entry member =>
        entry.binding_append _ (sound.bindings entry member)
    · exact List.map_congr_left fun entry member =>
        entry.reference_append _ (sound.references entry member)

theorem pop (sound : tables.Sound) :
    let popped : Tables := { tables with stack := tables.stack.tail }
    popped.Sound ∧
      popped.tracker =
        { tables.tracker with openScopes := tables.tracker.openScopes.tail } := by
  intro popped
  refine ⟨⟨sound.earlier, ?_, sound.bindings, sound.uncounted, sound.references, sound.distinct,
    sound.names⟩, ?_⟩
  · intro number isHead
    change number ∈ tables.stack.tail.head? at isHead
    cases open? : tables.stack with
    | nil => simp [open?] at isHead
    | cons current outer =>
        obtain ⟨inTable, isStack⟩ := sound.stack current (by simp [open?])
        have outside : popped.stack = outer := by simp [popped, open?]
        rw [open?, List.tail_cons] at isHead
        rw [open?] at isStack
        obtain ⟨-, isEmpty | ⟨around, smaller, isOuter⟩⟩ := chain_eq_cons isStack
        · simp [isEmpty] at isHead
        · obtain ⟨rest, isCons⟩ := List.head?_eq_some_iff.mp isHead
          obtain ⟨rfl, -⟩ := chain_eq_cons (isOuter.trans isCons)
          exact ⟨Nat.lt_trans smaller inTable, isOuter.trans outside.symm⟩
  · simp [popped, Tables.tracker, Tables.frames, List.map_tail]

/-! ### Declaring names -/

theorem number_inj (sound : tables.Sound) {first second : Nat}
    (isFirst : first < tables.frames.length) (isSecond : second < tables.frames.length)
    (same : (openIn tables.frames first).address = (openIn tables.frames second).address) :
    first = second := by
  have addressOf {number : Nat} (inTable : number < tables.frames.length) :
      (tables.frames.map (·.address))[number]? = some (openIn tables.frames number).address := by
    rw [List.getElem?_map, openIn, List.getElem?_eq_getElem inTable]
    rfl
  have inMap : first < (tables.frames.map (·.address)).length := by simpa using isFirst
  refine (List.getElem?_inj inMap sound.distinct).mp ?_
  rw [addressOf isFirst, addressOf isSecond, same]

theorem isFor_iff (sound : tables.Sound) {number : Nat} (inTable : number < tables.frames.length)
    (name : String) {binding : BindingEntry} (member : binding ∈ tables.bindings) :
    ((binding.binding tables.frames).scope = (openIn tables.frames number).address ∧
        (binding.binding tables.frames).name = name) ↔
      binding.scope = number ∧ binding.name = name :=
  and_congr_left fun _ =>
    ⟨fun same => sound.number_inj (sound.bindings binding member) inTable same,
      fun same => congrArg (fun other => (openIn tables.frames other).address) same⟩

theorem index_of_mem (sound : tables.Sound) {number : Nat} {entry : ScopeEntry}
    (found : tables.scopes[number]? = some entry) {binding : BindingEntry}
    (member : binding ∈ tables.bindings) (isScope : binding.scope = number) :
    ∃ index, tables.bindings[index]? = some binding ∧
      entry.names.get? binding.name = some index := by
  obtain ⟨index, isBinding⟩ := List.getElem?_of_mem member
  exact ⟨index, isBinding,
    (sound.names number entry binding.name index found).mpr ⟨binding, isBinding, isScope, rfl⟩⟩

theorem declared?_eq (sound : tables.Sound) {number : Nat} {entry : ScopeEntry}
    (found : tables.scopes[number]? = some entry) (name : String) :
    Tracker.declared? tables.tracker.bindings (openIn tables.frames number).address name =
      (entry.names.get? name).bind fun index =>
        tables.bindings[index]?.map (BindingEntry.binding tables.frames) := by
  have inTable : number < tables.frames.length := by
    simpa [frames] using (List.getElem?_eq_some_iff.mp found).1
  rw [Tracker.declared?, tracker, List.find?_map]
  cases first : tables.bindings.find? _ with
  | none =>
      rw [List.find?_eq_none] at first
      cases bound : entry.names.get? name with
      | none => rfl
      | some index =>
          obtain ⟨binding, isBinding, own⟩ :=
            (sound.names number entry name index found).mp bound
          have member := List.mem_of_getElem? isBinding
          exact absurd (decide_eq_true ((sound.isFor_iff inTable name member).mpr own))
            (first binding member)
  | some binding =>
      have member := List.mem_of_find?_eq_some first
      have isFor := List.find?_some first
      rw [Function.comp_apply, decide_eq_true_eq] at isFor
      obtain ⟨isScope, rfl⟩ := (sound.isFor_iff inTable name member).mp isFor
      obtain ⟨index, isBinding, bound⟩ := sound.index_of_mem found member isScope
      rw [bound, Option.bind_some, isBinding]

theorem names_set (sound : tables.Sound) {binding : BindingEntry} {entry : ScopeEntry}
    (found : tables.scopes[binding.scope]? = some entry)
    (unbound : entry.names.get? binding.name = none) {number : Nat} {other : ScopeEntry}
    {name : String} {index : Nat}
    (isOther : (tables.scopes.set binding.scope { entry with
      names := entry.names.insert binding.name tables.bindings.length })[number]? = some other) :
    other.names.get? name = some index ↔
      ∃ listed, (tables.bindings ++ [binding])[index]? = some listed ∧ listed.scope = number ∧
        listed.name = name := by
  have inScopes := (List.getElem?_eq_some_iff.mp found).1
  rw [exists_getElem?_concat]
  rw [List.getElem?_set] at isOther
  by_cases isScope : binding.scope = number
  · rw [if_pos isScope, if_pos inScopes, Option.some.injEq] at isOther
    subst isOther isScope
    have before := sound.names binding.scope entry name index found
    rw [Dictionary.get?_insert, ← before]
    by_cases isName : binding.name = name
    · subst isName
      simp [unbound, eq_comm]
    · simp [isName]
  · rw [if_neg isScope] at isOther
    simp [sound.names number other name index isOther, isScope]

theorem declare (sound : tables.Sound) {binding : BindingEntry}
    (inTable : binding.scope < tables.frames.length)
    (uncounted : binding.reads = 0 ∧ binding.writes = 0) :
    ComesTo (tables.declare binding) tables.frames
      (tables.tracker.declare (binding.binding tables.frames)) := by
  obtain ⟨entry, found⟩ := tables.exists_scope inTable
  have declared : Tracker.declared? tables.tracker.bindings
      (binding.binding tables.frames).scope (binding.binding tables.frames).name = _ :=
    sound.declared?_eq found binding.name
  rw [Tables.declare, access_eq_ok found]
  cases bound : entry.names.get? binding.name with
  | some index =>
      obtain ⟨earlier, isEarlier, -⟩ :=
        (sound.names binding.scope entry binding.name index found).mp bound
      rw [bound, Option.bind_some, isEarlier] at declared
      refine ⟨tables, by simp [Dictionary.contains, bound], sound, rfl, ?_⟩
      rw [Tracker.declare, declared]
      rfl
  | none =>
      rw [bound, Option.bind_none] at declared
      let next : Tables :=
        { tables with
          bindings := tables.bindings ++ [binding]
          scopes := tables.scopes.set binding.scope { entry with
            names := entry.names.insert binding.name tables.bindings.length } }
      have frames : next.frames = tables.frames := frames_set found _
      refine ⟨next, by simp [Dictionary.contains, bound, next], ?_, frames, ?_⟩
      · constructor <;> try rw [frames]
        · exact sound.earlier
        · exact sound.stack
        · intro other member
          rcases List.mem_append.mp member with old | new
          · exact sound.bindings other old
          · exact List.mem_singleton.mp new ▸ inTable
        · intro other member
          rcases List.mem_append.mp member with old | new
          · exact sound.uncounted other old
          · exact List.mem_singleton.mp new ▸ uncounted
        · exact sound.references
        · exact sound.distinct
        · exact fun number other name index => sound.names_set found bound
      · rw [Tracker.declare, declared, tracker, frames, List.map_append]
        rfl

/-! ### Identifiers -/

theorem parent_eq (sound : tables.Sound) {current : Nat} {outer : List Nat}
    (isOpen : tables.stack = current :: outer) {entry : ScopeEntry}
    (found : tables.scopes[current]? = some entry) : entry.parent = outer.head? := by
  obtain ⟨inTable, isStack⟩ := sound.stack current (by simp [isOpen])
  have isFrame := getElem?_frames found
  rw [isOpen, chain, isFrame] at isStack
  cases isParent : entry.parent with
  | none =>
      simp only [isParent, List.cons.injEq, true_and] at isStack
      rw [← isStack, List.head?_nil]
  | some around =>
      have smaller := sound.earlier current entry.toFrame around isFrame isParent
      simp only [isParent, smaller, if_true, List.cons.injEq, true_and] at isStack
      rw [← isStack, head?_chain (Nat.lt_trans smaller inTable)]

theorem declarationOf?_eq (sound : tables.Sound) (context : Context) {current : Nat}
    {outer : List Nat} (isOpen : tables.stack = current :: outer) :
    ∃ found, tables.declarationOf? context current = .ok found ∧
      (∀ declaration ∈ found, declaration.2.1 < tables.frames.length) ∧
      tables.tracker.declarationOf? context (openIn tables.frames current)
          (outer.map (openIn tables.frames)) =
        found.map fun declaration => (declaration.1,
          (openIn tables.frames declaration.2.1).address, declaration.2.2) := by
  have inStack : ∀ number ∈ tables.stack, number < tables.frames.length :=
    fun number member => sound.lt_of_mem_stack member
  have inTable : current < tables.frames.length := inStack current (by simp [isOpen])
  rw [Tables.declarationOf?, Tracker.declarationOf?]
  cases context.parent? with
  | none => exact ⟨none, rfl, by simp, rfl⟩
  | some parent =>
      dsimp only
      cases parent.node.kind with
      | variableDeclarator =>
          dsimp only
          cases (context.grandparent?.bind (·.node.attributes.declaration)).getD .var with
          | var =>
              dsimp only
              rw [nearestFunction?_eq tables inStack]
              refine ⟨_, rfl, ?_, ?_⟩
              · simp only [Option.mem_def, Option.map_eq_some_iff]
                rintro _ ⟨number, isNearest, rfl⟩
                exact inStack number (List.mem_of_find?_eq_some isNearest)
              · rw [Tracker.nearestFunction?, tracker, List.find?_map, Option.map_map,
                  Option.map_map, Option.map_map]
                rfl
          | _ => exact ⟨some (_, current, _), rfl, by simpa using inTable, rfl⟩
      | functionDeclaration =>
          obtain ⟨entry, found⟩ := tables.exists_scope inTable
          refine ⟨outer.head?.map fun around => (.function, around, true), ?_, ?_, ?_⟩
          · rw [access_eq_ok found, ← sound.parent_eq isOpen found]
            rfl
          · simp only [Option.mem_def, Option.map_eq_some_iff]
            rintro _ ⟨number, isHead, rfl⟩
            exact inStack number (by simp [isOpen, List.mem_of_head? isHead])
          · dsimp only
            rw [List.head?_map, Option.map_map, Option.map_map]
            rfl
      | parameter => exact ⟨some (_, current, _), rfl, by simpa using inTable, rfl⟩
      | _ => exact ⟨none, rfl, by simp, rfl⟩

theorem refer (sound : tables.Sound) {current : Nat} {outer : List Nat}
    (isOpen : tables.stack = current :: outer) (name : String) (role : IdentifierRole)
    (position : Position) :
    ComesTo
      (.ok { tables with references := tables.references ++ [⟨name, role, current, position⟩] })
      tables.frames
      { tables.tracker with
        references := tables.tracker.references ++
          [⟨name, role, tables.tracker.openScopes.map (·.address), position⟩] } := by
  obtain ⟨inTable, isStack⟩ := sound.stack current (by simp [isOpen])
  refine ⟨_, rfl, ⟨sound.earlier, sound.stack, sound.bindings, sound.uncounted, ?_, sound.distinct,
    sound.names⟩, rfl, ?_⟩
  · intro entry member
    rcases List.mem_append.mp member with old | new
    · exact sound.references entry old
    · obtain rfl := List.mem_singleton.mp new
      exact inTable
  · have listed : ReferenceEntry.reference tables.frames ⟨name, role, current, position⟩ =
        ⟨name, role, tables.tracker.openScopes.map (·.address), position⟩ := by
      rw [ReferenceEntry.reference, isStack, tracker, List.map_map]
      rfl
    change Tracker.mk _ _ _
      ((tables.references ++ [_]).map (ReferenceEntry.reference tables.frames)) = _
    rw [List.map_append, List.map_singleton, listed]
    rfl

theorem identifier (sound : tables.Sound) (context : Context) (node : Node) :
    ComesTo (tables.identifier context node) tables.frames
      (tables.tracker.identifier context node) := by
  have unchanged : ComesTo (.ok tables) tables.frames tables.tracker :=
    ⟨tables, rfl, sound, rfl, rfl⟩
  rw [Tables.identifier, Tracker.identifier]
  cases node.name? with
  | none => exact unchanged
  | some name =>
      cases node.attributes.role with
      | none => exact unchanged
      | some role =>
          cases isOpen : tables.stack with
          | nil =>
              have outside : tables.tracker.openScopes = [] := by simp [tracker, isOpen]
              rw [outside]
              cases role <;> exact unchanged
          | cons current outer =>
              have inside : tables.tracker.openScopes =
                  openIn tables.frames current :: outer.map (openIn tables.frames) := by
                simp [tracker, isOpen]
              have refers (role : IdentifierRole) :=
                sound.refer isOpen name role node.startPosition
              simp only [isOpen, inside] at refers
              rw [inside]
              cases role with
              | property => exact unchanged
              | declaration =>
                  dsimp only
                  obtain ⟨found, declared, inTable, isFound⟩ :=
                    sound.declarationOf?_eq context isOpen
                  rw [declared, isFound]
                  cases found with
                  | none => exact unchanged
                  | some declaration => exact sound.declare (inTable declaration rfl) ⟨rfl, rfl⟩
              | reference => exact refers .reference
              | assignment => exact refers .assignment

end Sound

/-! ### Walking over a tree -/

def entered? (event : Visit) : Option Address :=
  match event.phase with
  | .enter => some (event.target.index :: event.ancestors.map (·.index))
  | .exit => none

theorem Sound.shown {tables : Tables} (sound : tables.Sound) (surroundings : Surroundings)
    (event : Visit) (fresh : ∀ address ∈ entered? event, address ∉ tables.frames.map (·.address)) :
    ∃ next, tables.shown surroundings event = .ok next ∧ next.Sound ∧
      next.tracker = tables.tracker.shown surroundings event ∧
      (next.frames.map (·.address)).Sublist
        (tables.frames.map (·.address) ++ (entered? event).toList) := by
  obtain ⟨phase, target, ancestors⟩ := event
  let context : Context := ⟨surroundings, target.index, ancestors⟩
  cases phase with
  | exit =>
      change ∃ next, Except.ok (tables.exit context target.node) = .ok next ∧ next.Sound ∧
        next.tracker = tables.tracker.exit context target.node ∧ _
      rw [Tables.exit, Tracker.exit]
      cases Tracker.scopeOpened? target.node.kind context.parentKind? with
      | some isFunction =>
          obtain ⟨nextSound, nextTracker⟩ := sound.pop
          exact ⟨_, rfl, nextSound, nextTracker, List.sublist_append_left _ _⟩
      | none => exact ⟨_, rfl, sound, rfl, List.sublist_append_left _ _⟩
  | enter =>
      change ∃ next, tables.enter context target.node = .ok next ∧ next.Sound ∧
        next.tracker = tables.tracker.enter context target.node ∧ _
      rw [Tables.enter, Tracker.enter]
      cases Tracker.scopeOpened? target.node.kind context.parentKind? with
      | some isFunction =>
          obtain ⟨nextSound, nextTracker⟩ := sound.push isFunction (fresh _ rfl)
          refine ⟨_, rfl, nextSound, nextTracker, ?_⟩
          rw [frames_push, List.map_append]
          exact List.Sublist.refl _
      | none =>
          by_cases isIdentifier : target.node.kind = .identifier
          · obtain ⟨next, succeeds, nextSound, nextFrames, nextTracker⟩ :=
              sound.identifier context target.node
            refine ⟨next, by simp [isIdentifier, succeeds], nextSound,
              by simp [isIdentifier, nextTracker], ?_⟩
            rw [nextFrames]
            exact List.sublist_append_left _ _
          · exact ⟨tables, by simp [isIdentifier], sound, by simp [isIdentifier],
              List.sublist_append_left _ _⟩

theorem Sound.foldlM {tables : Tables} (sound : tables.Sound) (surroundings : Surroundings)
    {events : List Visit}
    (fresh : (tables.frames.map (·.address) ++ events.filterMap entered?).Nodup) :
    ∃ last, events.foldlM (Tables.shown surroundings) tables = .ok last ∧ last.Sound ∧
      last.tracker = events.foldl (Tracker.shown surroundings) tables.tracker := by
  -- The addresses used so far and those of the events to come are distinct together, which
  -- is what makes each new scope's address fresh when its turn comes.
  induction events generalizing tables with
  | nil => exact ⟨tables, rfl, sound, rfl⟩
  | cons event rest ih =>
      have split : tables.frames.map (·.address) ++ (event :: rest).filterMap entered? =
          (tables.frames.map (·.address) ++ (entered? event).toList) ++
            rest.filterMap entered? := by
        cases opened : entered? event <;> simp [opened]
      rw [split] at fresh
      have unused : ∀ address ∈ entered? event, address ∉ tables.frames.map (·.address) := by
        intro address isEntered used
        have apart := (List.nodup_append.mp (List.nodup_append.mp fresh).1).2.2
        exact apart address used address (Option.mem_toList.mpr isEntered) rfl
      obtain ⟨next, succeeds, nextSound, nextTracker, grown⟩ :=
        sound.shown surroundings event unused
      obtain ⟨last, reached, lastSound, lastTracker⟩ :=
        ih nextSound (fresh.sublist (grown.append_right _))
      refine ⟨last, ?_, lastSound, ?_⟩
      · rw [List.foldlM_cons, succeeds]
        exact reached
      · rw [lastTracker, nextTracker, List.foldl_cons]

theorem nodup_entered (root : Node) : ((visits [] 0 root).filterMap entered?).Nodup := by
  rw [List.nodup_iff_count]
  intro address
  have once : ((visits [] 0 root).filter (Visit.isAt .enter address.reverse.tail)).length ≤ 1 := by
    rw [filter_visits_isAt]
    cases descend? [] ⟨root, 0⟩ address.reverse.tail <;> simp
  rw [List.count_filterMap]
  refine Nat.le_trans (List.countP_mono_left fun event _ isEntered => ?_)
    (List.countP_eq_length_filter ▸ once)
  obtain ⟨phase, target, ancestors⟩ := event
  cases phase with
  | exit => cases isEntered
  | enter =>
      have same : target.index :: ancestors.map (·.index) = address := by
        simpa [entered?] using isEntered
      subst same
      exact decide_eq_true ⟨rfl, rfl⟩

theorem sound_ofTree (surroundings : Surroundings) (root : Node) :
    ∃ tables, ofTree surroundings root = .ok tables ∧ tables.Sound ∧
      tables.tracker = Tracker.ofTree surroundings root := by
  obtain ⟨tables, reached, sound, isTracker⟩ :=
    Sound.start.foldlM surroundings (nodup_entered root)
  refine ⟨tables, reached, sound, ?_⟩
  rw [isTracker, Tracker.ofTree, walkTree_eq_foldl]
  rfl

end Tables

end ScriptLint.Lexical
