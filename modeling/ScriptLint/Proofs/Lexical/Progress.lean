import ScriptLint.Proofs.Lexical.Tracking

/-!
# Trackers on their way

A walk over a tree can be stopped after any visit.  The visits so far lead from outside
the tree to inside some of its nodes, and a tracker that was shown them follows inside
these nodes what was entered so far.  So what holds of a tracker at every step of a walk
can be proved by induction on the visits.
-/

namespace ScriptLint

/-! ## Beginnings of a walk -/

/-- Visits in a row that lead from inside some nodes to inside others. -/
inductive Leads : List Located → List Visit → List Located → Prop
  | refl (around : List Located) : Leads around [] around
  | enter {target : Located} {around last : List Located} {events : List Visit}
      (rest : Leads (target :: around) events last) :
      Leads around (⟨.enter, target, around⟩ :: events) last
  | exit {target : Located} {around last : List Located} {events : List Visit}
      (rest : Leads around events last) :
      Leads (target :: around) (⟨.exit, target, around⟩ :: events) last

namespace Leads

variable {first second last : List Located} {before after : List Visit}

theorem trans (start : Leads first before second) (rest : Leads second after last) :
    Leads first (before ++ after) last := by
  induction start with
  | refl around => exact rest
  | enter _ ih => exact .enter (ih rest)
  | exit _ ih => exact .exit (ih rest)

theorem of_append (leads : Leads first (before ++ after) last) :
    ∃ middle, Leads first before middle ∧ Leads middle after last := by
  induction before generalizing first with
  | nil => exact ⟨first, .refl first, leads⟩
  | cons event before ih =>
      cases leads with
      | enter rest =>
          obtain ⟨middle, start, others⟩ := ih rest
          exact ⟨middle, .enter start, others⟩
      | exit rest =>
          obtain ⟨middle, start, others⟩ := ih rest
          exact ⟨middle, .exit start, others⟩

end Leads

mutual

theorem leads_visits (ancestors : List Located) (index : Nat) (node : Node) :
    Leads ancestors (visits ancestors index node) ancestors := by
  obtain ⟨kind, location, span, attributes, children⟩ := node
  have below := leads_visitsAll
    (⟨⟨kind, location, span, attributes, children⟩, index⟩ :: ancestors) 0 children
  exact .enter (below.trans (.exit (.refl ancestors)))

theorem leads_visitsAll (ancestors : List Located) (index : Nat) (children : List Node) :
    Leads ancestors (visitsAll ancestors index children) ancestors := by
  cases children with
  | nil => exact .refl ancestors
  | cons child rest =>
      exact (leads_visits ancestors index child).trans (leads_visitsAll ancestors (index + 1) rest)

end

namespace Lexical

/-! ## Places entered -/

def Place.ofVisit? (event : Visit) : Option Place :=
  match event.phase with
  | .enter => some ⟨event.target, event.ancestors⟩
  | .exit => none

def entered (events : List Visit) : List Place := events.filterMap Place.ofVisit?

theorem entered_append (before after : List Visit) :
    entered (before ++ after) = entered before ++ entered after :=
  List.filterMap_append

@[simp] theorem entered_enter (target : Located) (ancestors : List Located) :
    entered [⟨.enter, target, ancestors⟩] = [⟨target, ancestors⟩] := rfl

@[simp] theorem entered_exit (target : Located) (ancestors : List Located) :
    entered [⟨.exit, target, ancestors⟩] = [] := rfl

mutual

theorem entered_visits (ancestors : List Located) (index : Nat) (node : Node) :
    entered (visits ancestors index node) = placesFrom ancestors index node := by
  obtain ⟨kind, location, span, attributes, children⟩ := node
  have below := entered_visitsAll
    (⟨⟨kind, location, span, attributes, children⟩, index⟩ :: ancestors) 0 children
  rw [visits, placesFrom, ← below]
  change _ :: entered (_ ++ [_]) = _
  rw [entered_append, entered_exit, List.append_nil]

theorem entered_visitsAll (ancestors : List Located) (index : Nat) (children : List Node) :
    entered (visitsAll ancestors index children) = placesFromAll ancestors index children := by
  cases children with
  | nil => rfl
  | cons child rest =>
      rw [visitsAll, placesFromAll, entered_append, entered_visits ancestors index child,
        entered_visitsAll ancestors (index + 1) rest]

end

theorem entered_walk (root : Node) : entered (visits [] 0 root) = places root :=
  entered_visits [] 0 root

/-! ## Following -/

theorem Follows.foldl {ancestors last : List Located} {seen : List Place} {tracker : Tracker}
    {events : List Visit} (follows : Follows ancestors seen tracker)
    (leads : Leads ancestors events last) (surroundings : Surroundings) :
    Follows last (seen ++ entered events) (events.foldl (Tracker.shown surroundings) tracker) := by
  induction leads generalizing seen tracker with
  | refl around => simpa [entered] using follows
  | @enter target around last events rest ih =>
      have others := ih (follows.enter surroundings target)
      rwa [List.append_assoc] at others
  | @exit target around last events rest ih => exact ih (follows.exit surroundings)

theorem follows_of_append (surroundings : Surroundings) {root : Node} {before after : List Visit}
    (split : visits [] 0 root = before ++ after) :
    ∃ around, Leads around after [] ∧ Follows around (entered before)
      (before.foldl (Tracker.shown surroundings) .start) := by
  obtain ⟨around, start, rest⟩ := (split ▸ leads_visits [] 0 root).of_append
  exact ⟨around, rest, Follows.start.foldl start surroundings⟩

/-! ## The first scope -/

def firstScope? (root : Node) : Option Place := (places root).find? Place.isScope

namespace Tracker

theorem firstScope_identifier (tracker : Tracker) (context : Context) (node : Node) :
    (tracker.identifier context node).firstScope = tracker.firstScope := by
  rw [identifier]
  split
  · split
    · rfl
    · rw [declare]
      split <;> rfl
  · rfl
  · rfl
  · rfl

theorem firstScope_shown (tracker : Tracker) (surroundings : Surroundings) (event : Visit) :
    (tracker.shown surroundings event).firstScope = tracker.firstScope.or
      (((Place.ofVisit? event).filter Place.isScope).map Place.address) := by
  obtain ⟨phase, target, ancestors⟩ := event
  cases phase with
  | exit =>
      have left : tracker.shown surroundings ⟨.exit, target, ancestors⟩ = _ :=
        exit_eq tracker ⟨target, ancestors⟩ surroundings
      rw [left]
      split <;> simp [Place.ofVisit?]
  | enter =>
      have opened := Place.scopeOpened?_eq ⟨target, ancestors⟩ surroundings
      change (tracker.enter (Place.context ⟨target, ancestors⟩ surroundings)
        target.node).firstScope = _
      rw [Place.kind, Place.node] at opened
      rw [enter, opened]
      cases isScope : Place.isScope ⟨target, ancestors⟩ with
      | true => simp [Place.ofVisit?, Option.filter, isScope, openScope, addressOf, Place.context,
          Place.address]
      | false =>
          have unchanged : (if target.node.kind = .identifier then
              tracker.identifier (Place.context ⟨target, ancestors⟩ surroundings) target.node
              else tracker).firstScope = tracker.firstScope := by
            split
            · exact firstScope_identifier _ _ _
            · rfl
          simpa [Place.ofVisit?, Option.filter, isScope] using unchanged

theorem firstScope_foldl (tracker : Tracker) (surroundings : Surroundings)
    (events : List Visit) :
    (events.foldl (shown surroundings) tracker).firstScope = tracker.firstScope.or
      (((entered events).find? Place.isScope).map Place.address) := by
  induction events generalizing tracker with
  | nil => simp [entered]
  | cons event rest ih =>
      rw [List.foldl_cons, ih, firstScope_shown]
      cases opened : Place.ofVisit? event with
      | none => simp [entered, opened]
      | some place =>
          cases isScope : place.isScope <;> simp [entered, opened, Option.filter, isScope]

theorem firstScope_ofTree (surroundings : Surroundings) (root : Node) :
    (ofTree surroundings root).firstScope = (firstScope? root).map Place.address := by
  rw [ofTree, walkTree_eq_foldl, firstScope_foldl, entered_walk, firstScope?]
  rfl

end Tracker

end Lexical

end ScriptLint
