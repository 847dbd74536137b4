import Mathlib.Data.List.Induction
import ScriptLint.Proofs.Lexical.Progress
import ScriptLint.Proofs.Lexical.Tables

/-!
# Binders and their uses

An identifier that declares a name is a binder if no identifier before it declares the
same name in the same scope.  A name refers, wherever it stands, to the binder of the
innermost scope around it that has one for the name.  Here binders and uses are places
of a tree, so that two of them are told apart though they may look the same.  The
bindings of a tracker are those of the binders, in order, each with its uses, and the
uses that it leaves unresolved are those whose names are declared in none of the scopes
around them.
-/

namespace ScriptLint.Lexical

/-! ## Binders -/

/-- An identifier that declares a name, with what it binds. -/
structure Binder where
  place : Place
  binding : Binding

def Binder.isFor (scope : Address) (name : String) (binder : Binder) : Bool :=
  binder.binding.isFor scope name

def declaring (places : List Place) : List Binder :=
  places.filterMap fun place => place.binding?.map (Binder.mk place)

def firsts (declared : List Binder) : List Binder :=
  declared.filter fun binder =>
    (declared.find? (·.isFor binder.binding.scope binder.binding.name)).any
      (·.place.address = binder.place.address)

/-- One binder for each name in each scope in which it is declared, in pre-order. -/
def binders (root : Node) : List Binder := firsts (declaring (places root))

def binder? (root : Node) (scope : Address) (name : String) : Option Binder :=
  (declaring (places root)).find? (·.isFor scope name)

/-- What a name refers to at a place: the binder in the innermost scope around that has one. -/
def Place.referent? (root : Node) (place : Place) (name : String) : Option Binder :=
  place.scopes.findSome? fun scope => binder? root scope.address name

def Binder.isUsed (root : Node) (role : IdentifierRole) (binder : Binder) : Bool :=
  (places root).any fun place =>
    (place.node.nameInRole? role).any fun name =>
      (place.referent? root name).any (·.place.address = binder.place.address)

/-! ## Uses -/

structure Occurrence where
  place : Place
  use : Reference

def occurrences (root : Node) : List Occurrence :=
  (places root).filterMap fun place => place.use?.map (Occurrence.mk place)

/-- Whether a name is declared, before its use or after it, in none of the scopes around it. -/
def Occurrence.isFree (root : Node) (occurrence : Occurrence) : Bool :=
  (declarations root).all fun declaration =>
    declaration.name ≠ occurrence.use.name ∨ declaration.scope ∉ occurrence.use.scopes

/-! ## Addresses of places -/

theorem nodup_address_places (root : Node) : ((places root).map Place.address).Nodup := by
  have same : (places root).map Place.address = (visits [] 0 root).filterMap Tables.entered? := by
    rw [← entered_walk, entered, List.map_filterMap]
    congr 1
    funext event
    obtain ⟨phase, target, ancestors⟩ := event
    cases phase <;> rfl
  rw [same]
  exact Tables.nodup_entered root

theorem binding?_eq_some_iff {place : Place} {binding : Binding} :
    place.binding? = some binding ↔
      place.node.nameInRole? .declaration = some binding.name ∧
        place.bindingKind? = some binding.kind ∧
        place.declaringScope?.map Place.address = some binding.scope ∧
        binding.position = place.node.startPosition ∧
        binding.initialized = place.isInitialized := by
  obtain ⟨name, kind, scope, position, initialized⟩ := binding
  simp only [Place.binding?, Option.bind_eq_bind, Option.bind_eq_some_iff, Option.some.injEq,
    Binding.mk.injEq, Option.map_eq_some_iff]
  constructor
  · rintro ⟨text, named, what, isKind, target, isTarget, rfl, rfl, rfl, rfl, rfl⟩
    exact ⟨named, isKind, ⟨target, isTarget, rfl⟩, rfl, rfl⟩
  · rintro ⟨named, isKind, ⟨target, isTarget, rfl⟩, rfl, rfl⟩
    exact ⟨name, named, kind, isKind, target, isTarget, rfl, rfl, rfl, rfl, rfl⟩

theorem declaring_append (first second : List Place) :
    declaring (first ++ second) = declaring first ++ declaring second :=
  List.filterMap_append

theorem binding?_of_mem_declaring {places : List Place} {binder : Binder}
    (member : binder ∈ declaring places) :
    binder.place ∈ places ∧ binder.place.binding? = some binder.binding := by
  obtain ⟨place, inPlaces, declares⟩ := List.mem_filterMap.mp member
  obtain ⟨binding, isBinding, rfl⟩ := Option.map_eq_some_iff.mp declares
  exact ⟨inPlaces, isBinding⟩

theorem mem_declaring {places : List Place} {place : Place} {binding : Binding}
    (member : place ∈ places) (declares : place.binding? = some binding) :
    ⟨place, binding⟩ ∈ declaring places :=
  List.mem_filterMap.mpr ⟨place, member, by rw [declares, Option.map_some]⟩

theorem eq_of_mem_declaring {root : Node} {first second : Binder}
    (left : first ∈ declaring (places root)) (right : second ∈ declaring (places root))
    (same : first.place.address = second.place.address) : first = second := by
  obtain ⟨inFirst, ofFirst⟩ := binding?_of_mem_declaring left
  obtain ⟨inSecond, ofSecond⟩ := binding?_of_mem_declaring right
  obtain ⟨place, binding⟩ := first
  obtain ⟨other, otherBinding⟩ := second
  obtain rfl : place = other := eq_of_address_eq inFirst inSecond same
  obtain rfl : binding = otherBinding := Option.some.inj (ofFirst.symm.trans ofSecond)
  rfl

theorem map_binding_declaring (places : List Place) :
    (declaring places).map (·.binding) = places.filterMap Place.binding? := by
  rw [declaring, List.map_filterMap]
  congr 1
  funext place
  cases place.binding? <;> rfl

theorem uses_eq_map (root : Node) : uses root = (occurrences root).map (·.use) := by
  rw [uses, occurrences, List.map_filterMap]
  congr 1
  funext place
  cases place.use? <;> rfl

/-! ## First declarations -/

theorem firsts_append_singleton {declared : List Binder} {binder : Binder}
    (fresh : ∀ other ∈ declared, other.place.address ≠ binder.place.address) :
    firsts (declared ++ [binder]) = firsts declared ++
      if (declared.find? (·.isFor binder.binding.scope binder.binding.name)).isNone
      then [binder] else [] := by
  have isForSelf (other : Binder) : other.isFor other.binding.scope other.binding.name = true := by
    simp [Binder.isFor, Binding.isFor]
  have earlier : ∀ other ∈ declared,
      (declared ++ [binder]).find? (·.isFor other.binding.scope other.binding.name) =
        declared.find? (·.isFor other.binding.scope other.binding.name) := by
    intro other member
    have found : (declared.find? (·.isFor other.binding.scope other.binding.name)).isSome := by
      rw [List.find?_isSome]
      exact ⟨other, member, isForSelf other⟩
    obtain ⟨first, isFirst⟩ := Option.isSome_iff_exists.mp found
    rw [List.find?_append, isFirst, Option.some_or]
  rw [firsts, List.filter_append, firsts]
  congr 1
  · apply List.filter_congr
    intro other member
    rw [earlier other member]
  · cases known : declared.find? (·.isFor binder.binding.scope binder.binding.name) with
    | none => simp [List.find?_append, known, isForSelf]
    | some other =>
        simp [List.find?_append, known, fresh other (List.mem_of_find?_eq_some known)]

namespace Tracker

theorem bindings_declare (tracker : Tracker) (binding : Binding) :
    (tracker.declare binding).bindings = tracker.bindings ++
      if (tracker.bindings.find? (·.isFor binding.scope binding.name)).isNone
      then [binding] else [] := by
  rw [declare, declared?_eq_find?]
  cases tracker.bindings.find? (·.isFor binding.scope binding.name) <;> simp

theorem bindings_enter {ancestors : List Located} {seen : List Place} {tracker : Tracker}
    (follows : Follows ancestors seen tracker) (surroundings : Surroundings) (target : Located) :
    (tracker.shown surroundings ⟨.enter, target, ancestors⟩).bindings =
      ((Place.binding? ⟨target, ancestors⟩).elim tracker tracker.declare).bindings := by
  have entered : tracker.shown surroundings ⟨.enter, target, ancestors⟩ = _ :=
    enter_eq ⟨target, ancestors⟩ surroundings follows.openScopes
  rw [entered]
  split
  · rename_i isScope
    rw [Place.binding?_of_kind (Place.kind_of_isScope isScope)]
    rfl
  · rfl

theorem bindings_exit (tracker : Tracker) (surroundings : Surroundings) (target : Located)
    (ancestors : List Located) :
    (tracker.shown surroundings ⟨.exit, target, ancestors⟩).bindings = tracker.bindings := by
  have left : tracker.shown surroundings ⟨.exit, target, ancestors⟩ = _ :=
    exit_eq tracker ⟨target, ancestors⟩ surroundings
  rw [left]
  split <;> rfl

theorem bindings_of_append {root : Node} {before after : List Visit}
    (split : visits [] 0 root = before ++ after) (surroundings : Surroundings) :
    (before.foldl (shown surroundings) .start).bindings =
      (firsts (declaring (entered before))).map (·.binding) := by
  induction before using List.reverseRecOn generalizing after with
  | nil => rfl
  | append_singleton before event ih =>
      rw [List.append_assoc, List.singleton_append] at split
      have earlier := ih split
      obtain ⟨around, leads, follows⟩ := follows_of_append surroundings split
      rw [List.foldl_append, List.foldl_cons, List.foldl_nil, entered_append]
      cases leads with
      | @exit target around last events rest =>
          rw [bindings_exit, earlier, entered_exit, List.append_nil]
      | @enter target around last events rest =>
          rw [bindings_enter follows, entered_enter, declaring_append]
          cases declares : Place.binding? ⟨target, around⟩ with
          | none => simpa [declaring, declares] using earlier
          | some binding =>
              have single : declaring [⟨target, around⟩] = [⟨⟨target, around⟩, binding⟩] := by
                simp [declaring, declares]
              have fresh : ∀ other ∈ declaring (entered before),
                  other.place.address ≠ Place.address ⟨target, around⟩ := by
                have distinct := nodup_address_places root
                rw [← entered_walk, split, ← List.singleton_append, entered_append,
                  entered_append, entered_enter, List.map_append, List.nodup_append] at distinct
                intro other member
                exact distinct.2.2 _ (List.mem_map_of_mem (binding?_of_mem_declaring member).1) _
                  List.mem_cons_self
              rw [single, firsts_append_singleton fresh, Option.elim_some, bindings_declare,
                follows.bindings.lookup, ← map_binding_declaring, List.find?_map,
                Option.isNone_map, earlier, List.map_append, apply_ite (List.map Binder.binding)]
              rfl

theorem bindings_ofTree (surroundings : Surroundings) (root : Node) :
    (ofTree surroundings root).bindings = (binders root).map (·.binding) := by
  rw [ofTree, walkTree_eq_foldl, bindings_of_append (List.append_nil _).symm, entered_walk]
  rfl

end Tracker

/-! ## Referents -/

theorem hoisted?_eq (root : Node) (scope : Address) (name : String) :
    hoisted? root scope name = (binder? root scope name).map (·.binding) := by
  rw [hoisted?, declarations, ← map_binding_declaring, List.find?_map]
  rfl

theorem use?_eq_some_iff {place : Place} {use : Reference} :
    place.use? = some use ↔
      place.node.nameInRole? use.role = some use.name ∧
        (use.role = .reference ∨ use.role = .assignment) ∧ place.scopes ≠ [] ∧
        use.scopes = place.scopes.map Place.address ∧
        use.position = place.node.startPosition := by
  obtain ⟨name, role, scopes, position⟩ := use
  simp only [Place.use?, Option.bind_eq_bind, Option.bind_eq_some_iff,
    Option.ite_none_right_eq_some, Option.some.injEq, Reference.mk.injEq]
  constructor
  · rintro ⟨other, -, text, named, ⟨isUse, inside⟩, rfl, rfl, rfl, rfl⟩
    exact ⟨named, isUse, inside, rfl, rfl⟩
  · rintro ⟨named, isUse, inside, rfl, rfl⟩
    have hasRole := (Option.ite_none_right_eq_some.mp named).1.2
    exact ⟨role, hasRole, name, named, ⟨isUse, inside⟩, rfl, rfl, rfl, rfl⟩

theorem target?_eq {root : Node} {place : Place} {use : Reference}
    (uses : place.use? = some use) :
    target? root use = (place.referent? root use.name).map (·.binding) := by
  have scopes := (use?_eq_some_iff.mp uses).2.2.2.1
  rw [target?, scopes, List.findSome?_map, Place.referent?, List.map_findSome?]
  congr 1
  funext scope
  exact hoisted?_eq root scope.address use.name

theorem mem_binders_of_referent? {root : Node} {place : Place} {name : String} {binder : Binder}
    (refers : place.referent? root name = some binder) : binder ∈ binders root := by
  obtain ⟨scope, -, found⟩ := List.exists_of_findSome?_eq_some refers
  have isFor : binder.isFor scope.address name = true := List.find?_some found
  obtain ⟨isScope, isName⟩ : binder.binding.scope = scope.address ∧ binder.binding.name = name := by
    simpa [Binder.isFor, Binding.isFor] using isFor
  refine List.mem_filter.mpr ⟨List.mem_of_find?_eq_some found, ?_⟩
  rw [isScope, isName]
  change Option.any _ (binder? root scope.address name) = true
  simp [found]

theorem eq_of_mem_binders {root : Node} {first second : Binder} (left : first ∈ binders root)
    (right : second ∈ binders root) (same : first.binding = second.binding) :
    first = second := by
  obtain ⟨inFirst, isFirst⟩ := List.mem_filter.mp left
  obtain ⟨inSecond, isSecond⟩ := List.mem_filter.mp right
  rw [same] at isFirst
  obtain ⟨leader, found, atFirst⟩ := (Option.any_eq_true _ _).mp isFirst
  rw [found, Option.any_some] at isSecond
  exact eq_of_mem_declaring inFirst inSecond
    ((of_decide_eq_true atFirst).symm.trans (of_decide_eq_true isSecond))

theorem position_of_mem_binders {root : Node} {binder : Binder} (member : binder ∈ binders root) :
    binder.binding.position = binder.place.node.startPosition :=
  (binding?_eq_some_iff.mp
    (binding?_of_mem_declaring (List.mem_filter.mp member).1).2).2.2.2.1

theorem isUsed_iff {root : Node} {binder : Binder} (member : binder ∈ binders root)
    {role : IdentifierRole} (isUse : role = .reference ∨ role = .assignment) :
    binder.isUsed root role = true ↔
      ∃ use ∈ uses root, use.role = role ∧ target? root use = some binder.binding := by
  rw [Binder.isUsed, List.any_eq_true]
  constructor
  · rintro ⟨place, inTree, refers⟩
    obtain ⟨name, named, refers⟩ := (Option.any_eq_true _ _).mp refers
    obtain ⟨found, isFound, same⟩ := (Option.any_eq_true _ _).mp refers
    have inside : place.scopes ≠ [] := by
      intro outside
      simp [Place.referent?, outside] at isFound
    obtain rfl : found = binder := eq_of_mem_declaring
      (List.mem_filter.mp (mem_binders_of_referent? isFound)).1 (List.mem_filter.mp member).1
      (of_decide_eq_true same)
    have uses : place.use? =
        some ⟨name, role, place.scopes.map Place.address, place.node.startPosition⟩ :=
      use?_eq_some_iff.mpr ⟨named, isUse, inside, rfl, rfl⟩
    refine ⟨_, List.mem_filterMap.mpr ⟨place, inTree, uses⟩, rfl, ?_⟩
    rw [target?_eq uses, isFound, Option.map_some]
  · rintro ⟨use, inUses, rfl, isTarget⟩
    obtain ⟨place, inTree, uses⟩ := List.mem_filterMap.mp inUses
    rw [target?_eq uses] at isTarget
    obtain ⟨found, isFound, same⟩ := Option.map_eq_some_iff.mp isTarget
    obtain rfl : found = binder := eq_of_mem_binders (mem_binders_of_referent? isFound) member same
    refine ⟨place, inTree, ?_⟩
    rw [(use?_eq_some_iff.mp uses).1, Option.any_some, isFound]
    simp

theorem isNone_target? {root : Node} {occurrence : Occurrence} :
    (target? root occurrence.use).isNone = occurrence.isFree root := by
  rw [Bool.eq_iff_iff, Option.isNone_iff_eq_none, target?, List.findSome?_eq_none_iff,
    Occurrence.isFree, List.all_eq_true]
  simp only [hoisted?, List.find?_eq_none, Binding.isFor, decide_eq_true_eq]
  constructor
  · intro unbound declaration declared
    by_contra shadowed
    obtain ⟨isName, inScope⟩ := not_or.mp shadowed
    exact unbound _ (not_not.mp inScope) declaration declared ⟨rfl, not_not.mp isName⟩
  · rintro free scope inScopes declaration declared ⟨rfl, isName⟩
    rcases free declaration declared with other | outside
    · exact other isName
    · exact outside inScopes

/-! ## Usages -/

def Binder.usage (root : Node) (binder : Binder) : Usage :=
  ⟨binder.binding, (uses root).filter fun use => target? root use = some binder.binding⟩

theorem Binder.isRead_usage {root : Node} {binder : Binder} (member : binder ∈ binders root) :
    (binder.usage root).isRead = binder.isUsed root .reference := by
  rw [Bool.eq_iff_iff, isUsed_iff member (.inl rfl), Usage.isRead, usage, List.any_filter,
    List.any_eq_true]
  refine exists_congr fun use => and_congr_right fun inUses => ?_
  rcases role_of_mem_uses inUses with role | role <;> simp [role]

theorem Binder.isWritten_usage {root : Node} {binder : Binder} (member : binder ∈ binders root) :
    (binder.usage root).isWritten = binder.isUsed root .assignment := by
  rw [Bool.eq_iff_iff, isUsed_iff member (.inr rfl), Usage.isWritten, usage, List.any_filter,
    List.any_eq_true]
  refine exists_congr fun use => and_congr_right fun _ => ?_
  simp [and_comm]

namespace Tracker

theorem usages_ofTree (surroundings : Surroundings) (root : Node) :
    (ofTree surroundings root).usages = (binders root).map (Binder.usage root) := by
  have scoping := isScopingOf_of_follows (follows_ofTree surroundings root)
  rw [scoping.usages, bindings_ofTree, List.map_map]
  rfl

theorem unresolved_ofTree (surroundings : Surroundings) (root : Node) :
    (ofTree surroundings root).unresolved =
      ((occurrences root).filter (Occurrence.isFree root)).map (·.use) := by
  have scoping := isScopingOf_of_follows (follows_ofTree surroundings root)
  rw [scoping.unresolved, uses_eq_map, List.filter_map]
  congr 2
  funext occurrence
  exact isNone_target?

end Tracker

end ScriptLint.Lexical
