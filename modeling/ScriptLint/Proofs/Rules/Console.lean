import ScriptLint.Proofs.Lexical.Nesting
import ScriptLint.Proofs.Rules.Names

/-!
# The rule on the console

When the rule is shown a member access on a name `console`, it notes the number of
uses so far, and when the walk is over it looks whether the use of that number is
unresolved.  Members, calls and scopes may be nested in any way: the node that the walk
enters next is always the object of the access, so the use of that number is the object,
and the rule reports the accesses whose object is a name that is declared in no scope
around it.
-/

namespace ScriptLint.Rules.NoConsole

open Evaluation Lexical

/-! ## Notes -/

def note (surroundings : Surroundings) (state : State) (event : Visit) : State :=
  let context : Context := ⟨surroundings, event.target.index, event.ancestors⟩
  match event.phase with
  | .enter => enter state context event.target.node
  | .exit => { state with tracker := state.tracker.exit context event.target.node }

theorem listens : rule.Listens (fun state : State => state) note fun state _ => findings state where
  respond _ event _ := by
    obtain ⟨phase, target, ancestors⟩ := event
    cases phase <;> rfl
  finish _ _ := rfl

def isNoted (allow : NameSet) (event : Visit) : Bool :=
  event.phase = .enter && event.target.node.kind = .memberExpression &&
    isCandidate allow event.target.node

theorem isNoted_entering (allow : NameSet) (access : Place) :
    isNoted allow access.entering =
      (access.kind = .memberExpression && isCandidate allow access.node) := rfl

theorem shown_of_member {event : Visit} (isMember : event.target.node.kind = .memberExpression)
    (surroundings : Surroundings) (tracker : Tracker) :
    tracker.shown surroundings event = tracker :=
  Tracker.shown_of_notMem_interests (by simp [isMember, Lexical.interests]) surroundings tracker

theorem note_eq (surroundings : Surroundings) (state : State) (event : Visit) :
    note surroundings state event =
      { allow := state.allow
        tracker := state.tracker.shown surroundings event
        candidates := state.candidates ++ if isNoted state.allow event
          then [⟨state.tracker.references.length, event.target.node.startPosition⟩] else [] } := by
  obtain ⟨phase, target, ancestors⟩ := event
  cases phase with
  | exit => simp [note, isNoted, Tracker.shown]
  | enter =>
      by_cases isMember : target.node.kind = .memberExpression
      · rw [shown_of_member isMember]
        cases candidate : isCandidate state.allow target.node <;>
          simp [note, enter, isNoted, isMember, candidate]
      · simp [note, enter, isNoted, isMember, Tracker.shown]

def stateAfter (allow : NameSet) (surroundings : Surroundings) (events : List Visit) : State :=
  events.foldl (note surroundings) ⟨allow, .start, []⟩

theorem stateAfter_append_singleton (allow : NameSet) (surroundings : Surroundings)
    (events : List Visit) (event : Visit) :
    stateAfter allow surroundings (events ++ [event]) =
      note surroundings (stateAfter allow surroundings events) event := by
  rw [stateAfter, List.foldl_append]
  rfl

@[simp] theorem allow_stateAfter (allow : NameSet) (surroundings : Surroundings)
    (events : List Visit) : (stateAfter allow surroundings events).allow = allow := by
  induction events using List.reverseRecOn with
  | nil => rfl
  | append_singleton events event ih => rw [stateAfter_append_singleton, note_eq, ih]

@[simp] theorem tracker_stateAfter (allow : NameSet) (surroundings : Surroundings)
    (events : List Visit) : (stateAfter allow surroundings events).tracker =
      events.foldl (Tracker.shown surroundings) .start := by
  induction events using List.reverseRecOn with
  | nil => rfl
  | append_singleton events event ih =>
      rw [stateAfter_append_singleton, note_eq, ih, List.foldl_append]
      rfl

theorem stateAfter_filter_wants (allow : NameSet) (surroundings : Surroundings)
    (events : List Visit) :
    stateAfter allow surroundings (events.filter rule.wants) =
      stateAfter allow surroundings events := by
  rw [stateAfter, List.foldl_filter, stateAfter]
  congr 1
  funext state event
  split
  · rfl
  · rename_i unwanted
    simp only [Rule.wants, rule, List.mem_append, List.mem_singleton, decide_eq_true_eq,
      not_or] at unwanted
    rw [note_eq, Tracker.shown_of_notMem_interests unwanted.1]
    simp [isNoted, unwanted.2]

/-! ## The object of an access -/

theorem number_of_object {root : Node} (isProgram : root.kind = .program)
    (surroundings : Surroundings) {before after : List Visit} {access object : Place}
    (split : visits [] 0 root = before ++ access.entering :: after)
    (isMember : access.kind = .memberExpression) (isObject : access.child? 0 = some object)
    {name : String} (refers : object.node.nameInRole? .reference = some name) :
    let tracker := before.foldl (Tracker.shown surroundings) .start
    ∃ rest use, after = object.entering :: rest ∧ use.name = name ∧
      (tracker.shown surroundings object.entering).references = tracker.references ++ [use] ∧
      (occurrences root)[tracker.references.length]? = some ⟨object, use⟩ := by
  intro tracker
  obtain ⟨rest, rfl⟩ := exists_of_child?_zero split isObject
  have below : object.ancestors = access.target :: access.ancestors := by
    obtain ⟨node, -, rfl⟩ := Option.map_eq_some_iff.mp isObject
    rfl
  obtain ⟨last, leads, follows⟩ := follows_of_append surroundings split
  cases leads with
  | enter leads =>
      -- The access itself makes no use of a name, so the object makes the next one.
      have accessUses : access.use? = none :=
        Place.use?_of_kind (by simp [show access.node.kind = _ from isMember])
      have inTree : places root = entered before ++ access :: object :: entered rest := by
        rw [← entered_walk, split, entered_append]
        rfl
      have inside : object.scopes ≠ [] :=
        scopes_ne_nil isProgram (by simp [inTree]) (by simp [below])
      obtain ⟨use, uses, isName⟩ : ∃ use, object.use? = some use ∧ use.name = name :=
        ⟨⟨name, .reference, _, _⟩, use?_eq_some_iff.mpr ⟨refers, .inl rfl, inside, rfl, rfl⟩, rfl⟩
      refine ⟨rest, use, rfl, isName, ?_, ?_⟩
      · have shown := follows.enter surroundings access.target
        rw [shown_of_member isMember, ← below] at shown
        have noted := (shown.enter surroundings object.target).references
        rw [List.append_assoc, List.filterMap_append, ← follows.references] at noted
        refine noted.trans (congrArg _ ?_)
        exact (List.filterMap_cons_none accessUses).trans (List.filterMap_cons_some uses)
      · have counted : tracker.references.length = ((entered before).filterMap
            fun place => place.use?.map (Occurrence.mk place)).length := by
          rw [follows.references]
          simp [List.length_filterMap_eq_countP]
        rw [counted, occurrences, inTree, List.filterMap_append, List.getElem?_append_right le_rfl]
        simp [accessUses, uses]

theorem contains_unresolvedNumbers (surroundings : Surroundings) {root : Node} {number : Nat}
    {occurrence : Occurrence} (numbered : (occurrences root)[number]? = some occurrence) :
    (unresolvedNumbers (.ofTree surroundings root)).contains number =
      ((occurrence.place.referent? root occurrence.use.name).isNone &&
        occurrence.use.name = "console") := by
  have scoping := isScopingOf_of_follows (follows_ofTree surroundings root)
  have resolved : (Tracker.ofTree surroundings root).resolutions[number]? =
      some (occurrence.use, target? root occurrence.use) := by
    rw [scoping.resolutions, uses_eq_map, List.map_map, List.getElem?_map, numbered]
    rfl
  have isUse := (mem_occurrences_iff.mp (List.mem_of_getElem? numbered)).2
  rw [Bool.eq_iff_iff, List.contains_iff_mem, unresolvedNumbers, List.mem_map]
  constructor
  · rintro ⟨⟨⟨use, target⟩, index⟩, member, rfl⟩
    obtain ⟨inNumbered, unresolved⟩ := List.mem_filter.mp member
    rw [List.mk_mem_zipIdx_iff_getElem?, resolved] at inNumbered
    cases inNumbered
    rwa [target?_eq isUse, Option.isNone_map] at unresolved
  · intro unresolved
    refine ⟨((occurrence.use, target? root occurrence.use), number),
      List.mem_filter.mpr ⟨?_, ?_⟩, rfl⟩
    · rwa [List.mk_mem_zipIdx_iff_getElem?]
    · rwa [target?_eq isUse, Option.isNone_map]

/-! ## Reports -/

/--
Whether a place is a member access on a name `console` that is declared in no scope
around it, with a method that is not allowed.
-/
def isOnGlobalConsole (root : Node) (allow : NameSet) (access : Place) : Bool :=
  access.kind = .memberExpression &&
    (access.child? 0).any (fun object =>
      object.node.nameInRole? .reference = some "console" &&
        (object.referent? root "console").isNone) &&
    !allow.contains (((access.child? 1).bind (·.node.name?)).getD "")

/-- The numbers tell the accesses on the global console from the others that are noted. -/
theorem isOnGlobalConsole_eq {root : Node} (isProgram : root.kind = .program) (allow : NameSet)
    (surroundings : Surroundings) {before after : List Visit} {access : Place}
    (split : visits [] 0 root = before ++ access.entering :: after) :
    isOnGlobalConsole root allow access = (isNoted allow access.entering &&
      (unresolvedNumbers (.ofTree surroundings root)).contains
        (before.foldl (Tracker.shown surroundings) .start).references.length) := by
  have object : (access.child? 0).bind (·.node.nameInRole? .reference) =
      (access.node.child? 0).bind (·.nameInRole? .reference) := by
    rw [Place.child?, Option.bind_map]
    rfl
  have method : (access.child? 1).bind (·.node.name?) =
      (access.node.child? 1).bind Node.name? := by
    rw [Place.child?, Option.bind_map]
    rfl
  rw [isOnGlobalConsole, isNoted_entering, isCandidate, ← object, method]
  by_cases isMember : access.kind = .memberExpression
  · cases isObject : access.child? 0 with
    | none => simp
    | some object =>
        by_cases refers : object.node.nameInRole? .reference = some "console"
        · obtain ⟨rest, use, -, isName, -, numbered⟩ :=
            number_of_object isProgram surroundings split isMember isObject refers
          rw [contains_unresolvedNumbers surroundings numbered, isName]
          simp [isMember, refers, Bool.and_comm]
        · simp [refers]
  · simp [isMember]

theorem filter_candidates {root : Node} (isProgram : root.kind = .program) (allow : NameSet)
    (surroundings : Surroundings) {before after : List Visit}
    (split : visits [] 0 root = before ++ after) :
    ((stateAfter allow surroundings before).candidates.filter fun candidate =>
        (unresolvedNumbers (.ofTree surroundings root)).contains candidate.reference).map
          (·.position) =
      ((entered before).filter (isOnGlobalConsole root allow)).map (·.node.startPosition) := by
  induction before using List.reverseRecOn generalizing after with
  | nil => rfl
  | append_singleton before event ih =>
      rw [List.append_assoc, List.singleton_append] at split
      rw [stateAfter_append_singleton, note_eq, allow_stateAfter, tracker_stateAfter,
        List.filter_append, List.map_append, ih split, entered_append, List.filter_append,
        List.map_append]
      congr 1
      obtain ⟨phase, target, around⟩ := event
      cases phase with
      | exit => simp [isNoted]
      | enter =>
          have reported : isOnGlobalConsole root allow ⟨target, around⟩ = _ :=
            isOnGlobalConsole_eq isProgram allow surroundings split
          rw [entered_enter, List.filter_cons, reported, Place.entering]
          cases isNoted allow ⟨.enter, target, around⟩ with
          | false => rfl
          | true =>
              rw [if_pos rfl, List.filter_cons, Bool.true_and]
              split <;> rfl

theorem findings_stateAfter {root : Node} (isProgram : root.kind = .program) (allow : NameSet)
    (surroundings : Surroundings) :
    findings (stateAfter allow surroundings (visits [] 0 root)) =
      ((places root).filter (isOnGlobalConsole root allow)).map fun access =>
        ⟨"console_call", "Unexpected console statement.", access.node.startPosition⟩ := by
  have tracked : (stateAfter allow surroundings (visits [] 0 root)).tracker =
      Tracker.ofTree surroundings root := by
    rw [tracker_stateAfter, Tracker.ofTree, walkTree_eq_foldl]
  have positions := filter_candidates isProgram allow surroundings (List.append_nil _).symm
  rw [entered_walk, ← tracked] at positions
  have reported := congrArg (List.map fun position =>
    (⟨"console_call", "Unexpected console statement.", position⟩ : Finding)) positions
  rw [List.map_map, List.map_map] at reported
  exact reported

/--
Shown an access, the rule notes how many uses there are; the next node is the object of
the access, and the use that it makes gets this number.
-/
structure Foresees (root : Node) (surroundings : Surroundings) (state : State) (access : Place)
    (after : List Visit) : Prop where
  noted : (note surroundings state access.entering).candidates =
    state.candidates ++ [⟨state.tracker.references.length, access.node.startPosition⟩]
  given : ∃ object use rest, access.child? 0 = some object ∧ after = object.entering :: rest ∧
    ([access.entering, object.entering].foldl (note surroundings) state).tracker.references =
      state.tracker.references ++ [use] ∧
    (occurrences root)[state.tracker.references.length]? = some ⟨object, use⟩

theorem foresees {root : Node} (isProgram : root.kind = .program) (allow : NameSet)
    (surroundings : Surroundings) {before after : List Visit} {access : Place}
    (split : visits [] 0 root = before ++ access.entering :: after)
    (isMember : access.kind = .memberExpression)
    (candidate : isCandidate allow access.node = true) :
    Foresees root surroundings (stateAfter allow surroundings before) access after := by
  have isNext := candidate
  rw [isCandidate, Bool.and_eq_true, decide_eq_true_eq] at isNext
  obtain ⟨node, isNode, refers⟩ := Option.bind_eq_some_iff.mp isNext.1
  have isObject : access.child? 0 = some ⟨⟨node, 0⟩, access.target :: access.ancestors⟩ := by
    rw [Place.child?, isNode, Option.map_some]
  obtain ⟨rest, use, isAfter, -, appended, numbered⟩ :=
    number_of_object isProgram surroundings split isMember isObject refers
  have noted : isNoted (stateAfter allow surroundings before).allow access.entering = true := by
    rw [allow_stateAfter, isNoted_entering, candidate]
    simp [isMember]
  refine ⟨?_, _, use, rest, isObject, isAfter, ?_, ?_⟩
  · rw [note_eq, if_pos noted]
    rfl
  · rw [List.foldl_cons, List.foldl_cons, List.foldl_nil, note_eq, note_eq,
      shown_of_member isMember, tracker_stateAfter]
    exact appended
  · rw [tracker_stateAfter]
    exact numbered

/--
One report on each member access on the global console with a method that is not
allowed, where the access starts; and wherever in the walk an access is noted, the
rule foresees the number of the use that its object makes.
-/
theorem reports_accesses_to_global_console {registry : Registry} (reachable : registry.Reachable)
    {policy : Policy} {id : String} {plugin : Option String}
    (member : ⟨id, plugin, rule⟩ ∈ registry.rules) {binding : RuleBinding}
    (enabled : policy.activeBinding? id = some binding)
    (valid : rule.validate binding.options = .ok ()) {tree : SyntaxTree}
    (isProgram : tree.root.kind = .program) :
    ∃ allow, settings binding.options = .ok allow ∧
      (registry.evaluate policy tree).diagnostics.filter (Diagnostic.ofRule id) =
        (FileReport.ofDiagnostics tree.path
          (((places tree.root).filter (isOnGlobalConsole tree.root allow)).map fun access =>
            { ruleId := id, code := "console_call", severity := binding.severity
              message := "Unexpected console statement."
              position := access.node.startPosition, fingerprint := none })).diagnostics ∧
      ∀ before access after, visits [] 0 tree.root = before ++ access.entering :: after →
        access.kind = .memberExpression → isCandidate allow access.node = true →
        let surroundings : Surroundings := ⟨id, policy.globals, policy.capabilities⟩
        ∃ state, rule.Completes binding.options surroundings
            (.create :: (before.filter rule.wants).map .visit) [] state ∧
          Foresees tree.root surroundings state access after := by
  obtain ⟨allow, isSettings⟩ := Rule.validated_eq_ok_iff.mp valid
  have created : rule.create binding.options = .ok (State.mk allow .start []) :=
    Rule.created_eq_ok_iff.mpr ⟨allow, isSettings, rfl⟩
  refine ⟨allow, isSettings, ?_, ?_⟩
  · have notes : Rule.Listens.notesOn rule note ⟨allow, .start, []⟩
        ⟨id, policy.globals, policy.capabilities⟩ tree.root = stateAfter allow _ _ :=
      stateAfter_filter_wants allow _ (visits [] 0 tree.root)
    refine (Registry.filter_ofRule_evaluate_of_listens reachable member enabled listens created
      tree).trans ?_
    dsimp only
    rw [notes, findings_stateAfter isProgram, List.map_map]
    rfl
  · intro before access after split isMember candidate surroundings
    have completes := listens.completes_visits created surroundings (before.filter rule.wants)
    have foreseen := foresees isProgram allow surroundings split isMember candidate
    rw [← stateAfter_filter_wants] at foreseen
    exact ⟨_, completes, foreseen⟩

/-- An access in the arguments of an allowed one, beside one on a parameter of the same name. -/
theorem reports_access_in_arguments_of_allowed :
    let options : List Value := [.object [("allow", .array [.string "warn"])]]
    let policy : Policy :=
      { environments := ∅, capabilities := .default, globals := ∅
        rules := (∅ : Dictionary RuleBinding).insert "no-console" ⟨.blocking, options⟩ }
    let write (method : String) (arguments : List Node) : Node :=
      Build.call (Build.member (Build.identifier "console" .reference) method) arguments
    let tree : SyntaxTree := ⟨⟨"a.js"⟩, Layout.program
      [Build.statement .expressionStatement [write "warn" [write "log" []]] true,
        Build.function "f" ["console"]
          [Build.statement .expressionStatement [write "log" []] true]]⟩
    ((Registry.builtIn .standard).evaluate policy tree).diagnostics.filter
        (Diagnostic.ofRule "no-console") =
      [Diagnostic.stamped tree.path ⟨"no-console", "console_call", .blocking,
        "Unexpected console statement.", ⟨1, 19, ⟨18, 31⟩⟩, none⟩] := by
  intro options policy write tree
  have member : rule ∈ builtIn .standard := by simp [builtIn]
  have enabled : policy.activeBinding? "no-console" = some ⟨.blocking, options⟩ := rfl
  obtain ⟨allow, isSettings, reported, -⟩ := reports_accesses_to_global_console .builtIn
    (Registry.of_mem_rules_builtIn member) enabled rfl (rfl : tree.root.kind = .program)
  cases isSettings
  exact reported.trans (FileReport.ofDiagnostics_toList tree.path (some _))

end ScriptLint.Rules.NoConsole
