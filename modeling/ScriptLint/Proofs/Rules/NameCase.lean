import ScriptLint.Proofs.Lexical.Nesting
import ScriptLint.Proofs.Rules.BuiltIn
import ScriptLint.Proofs.Rules.Inspection

/-!
# The rule on the case of names

The rule asks for camel case where a name is declared, and where a property is assigned to if
its options say so.  What an assignment assigns to is its first child and no other one,
even if another child is the same node and has, going by its location, the same place in
the source.
-/

namespace ScriptLint.Rules.Camelcase

open Evaluation Lexical

variable {engine : PatternEngine}

/-! ## Names without the underscores around them -/

/-- What is left of a name when the underscores at its two ends are taken away. -/
structure IsStripped (name inner : List Char) : Prop where
  whole : ∃ before after,
    name = List.replicate before '_' ++ (inner ++ List.replicate after '_')
  first : inner.head? ≠ some '_'
  last : inner.getLast? ≠ some '_'

theorem dropWhile_underscores {rest : List Char} (first : rest.head? ≠ some '_') (count : Nat) :
    (List.replicate count '_' ++ rest).dropWhile (· = '_') = rest := by
  rw [List.dropWhile_append_of_pos (by simp)]
  cases rest with
  | nil => rfl
  | cons character rest =>
      have other : character ≠ '_' := fun same => first (congrArg some same)
      simp [other]

theorem exists_underscores_append (name : List Char) :
    ∃ count, name = List.replicate count '_' ++ name.dropWhile (· = '_') := by
  have underscores : ∀ character ∈ name.takeWhile (· = '_'), character = '_' :=
    fun character member => by simpa using List.mem_takeWhile_imp member
  refine ⟨(name.takeWhile (· = '_')).length, ?_⟩
  rw [← List.eq_replicate_of_mem underscores, List.takeWhile_append_dropWhile]

theorem head?_dropWhile_underscores (name : List Char) :
    (name.dropWhile (· = '_')).head? ≠ some '_' := by
  intro isFirst
  have other := List.head?_dropWhile_not (· = '_') name
  simp [isFirst] at other

theorem isStripped_core (name : List Char) : IsStripped name (core name) := by
  obtain ⟨before, isName⟩ := exists_underscores_append name
  obtain ⟨after, isRest⟩ := exists_underscores_append (name.dropWhile (· = '_')).reverse
  have noneFirst := head?_dropWhile_underscores name
  have noneLast := head?_dropWhile_underscores (name.dropWhile (· = '_')).reverse
  rw [core]
  generalize name.dropWhile (· = '_') = rest at isName isRest noneFirst noneLast ⊢
  generalize rest.reverse.dropWhile (· = '_') = kept at isRest noneLast ⊢
  have whole : rest = kept.reverse ++ List.replicate after '_' := by
    rw [← List.reverse_reverse rest, isRest, List.reverse_append, List.reverse_replicate]
  refine ⟨⟨before, after, whole ▸ isName⟩, fun isFirst => noneFirst ?_, ?_⟩
  · rw [whole, List.head?_append, isFirst]
    rfl
  · rwa [List.getLast?_reverse]

theorem isStripped_iff {name inner : List Char} : IsStripped name inner ↔ inner = core name := by
  constructor
  · rintro ⟨⟨before, after, rfl⟩, first, last⟩
    cases inner with
    | nil =>
        have allUnderscores : (List.replicate before '_' ++
            ([] ++ List.replicate after '_')).dropWhile (· = '_') = [] := by
          rw [List.dropWhile_eq_nil_iff]
          simp +contextual
        rw [core, allUnderscores]
        rfl
    | cons character inner =>
        rw [core, dropWhile_underscores (by simpa using first), List.reverse_append,
          List.reverse_replicate, dropWhile_underscores (by rwa [List.head?_reverse]),
          List.reverse_reverse]
  · rintro rfl
    exact isStripped_core name

/-- What is left of the name has an underscore and a lowercase character. -/
def IsOutOfCase (name : String) : Prop :=
  ∃ inner, IsStripped name.toList inner ∧ '_' ∈ inner ∧
    ∃ character ∈ inner, Text.isLowercase character = true

theorem isCamelCase_eq_false_iff (name : String) :
    isCamelCase name = false ↔ IsOutOfCase name := by
  simp [isCamelCase, IsOutOfCase, isStripped_iff]

/-! ## Places that the rule looks at -/

def isTarget (place : Place) : Bool :=
  place.target.index = 0 && place.parent?.any (·.kind = .assignmentExpression)

/-- Whether a name is declared in a place, or a property assigned to if that counts. -/
def isConcerned (given : Settings engine) (place : Place) : Bool :=
  match place.node.attributes.role with
  | some .declaration => true
  | some .property => given.properties ≠ .never &&
      place.parent?.any fun access => access.kind = .memberExpression && isTarget access
  | _ => false

def isReported (given : Settings engine) (place : Place) : Bool :=
  place.kind = .identifier && isConcerned given place &&
    place.node.name?.any fun name =>
      !isCamelCase name && !given.allow.any (engine.matchesIn · name)

theorem isAssignedProperty_eq (place : Place) (surroundings : Surroundings) :
    isAssignedProperty (place.context surroundings) =
      place.parent?.any fun access => access.kind = .memberExpression && isTarget access := by
  obtain ⟨target, ancestors⟩ := place
  match ancestors with
  | [] => rfl
  | [access] => simp [isAssignedProperty, Place.context, Context.parent?, Context.grandparent?,
      Place.parent?, Place.enclosing, placesOf, isTarget]
  | access :: assignment :: _ =>
      simp only [isAssignedProperty, Place.context, Context.parent?, Context.grandparent?,
        Place.parent?, Place.enclosing, placesOf, isTarget, Place.kind, Place.node,
        List.head?_cons, List.tail_cons, Option.any_some, Bool.and_assoc]
      rw [Bool.and_comm (decide (assignment.node.kind = _))]
      rfl

theorem isChecked_eq (given : Settings engine) (place : Place) (surroundings : Surroundings) :
    isChecked given (place.context surroundings) place.node = isConcerned given place := by
  rw [isChecked, isAssignedProperty_eq]
  rfl

def finding (place : Place) : Finding :=
  let name := place.node.name?.getD ""
  ⟨"not_camel_case", s!"Identifier '{name}' is not in camel case.", place.node.startPosition⟩

theorem findings_eq (given : Settings engine) (surroundings : Surroundings) {place : Place}
    (isIdentifier : place.kind = .identifier) :
    findings given (place.context surroundings) place.node =
      if isReported given place then [finding place] else [] := by
  rw [findings, isReported, finding, isIdentifier]
  cases place.node.name? with
  | none => simp
  | some name =>
      have excused : (!isChecked given (place.context surroundings) place.node ||
          isCamelCase name || given.allow.any (engine.matchesIn · name)) =
          !(isConcerned given place &&
            (!isCamelCase name && !given.allow.any (engine.matchesIn · name))) := by
        rw [isChecked_eq, Bool.not_and, Bool.not_and, Bool.not_not, Bool.not_not, Bool.or_assoc]
      simp only [excused, Option.any_some, Option.getD_some, decide_true, Bool.true_and]
      cases isConcerned given place && _ <;> rfl

theorem judgesBy : (rule engine).JudgesBy (.total findings) where
  enter _ _ _ := rfl
  exit _ _ _ := rfl
  finish _ _ := rfl

/-! ## Misnamed identifiers -/

def IsAssigned (place : Place) : Prop :=
  ∃ access assignment : Place, place.parent? = some access ∧ access.kind = .memberExpression ∧
    assignment.kind = .assignmentExpression ∧ assignment.child? 0 = some access

/-- An identifier that is named as it should not be, where it matters. -/
structure IsMisnamed (given : Settings engine) (place : Place) : Prop where
  identifier : place.kind = .identifier
  name : ∃ name, place.node.name? = some name ∧ IsOutOfCase name ∧
    ∀ pattern ∈ given.allow, engine.matchesIn pattern name = false
  role : place.node.attributes.role = some .declaration ∨
    place.node.attributes.role = some .property ∧ given.properties = .always ∧ IsAssigned place

theorem isTarget_iff {root : Node} {place : Place} (member : place ∈ places root) :
    isTarget place = true ↔ ∃ assignment : Place, assignment.kind = .assignmentExpression ∧
      assignment.child? 0 = some place := by
  rw [isTarget, Bool.and_eq_true, decide_eq_true_eq, Option.any_eq_true]
  constructor
  · rintro ⟨isFirst, assignment, around, isAssignment⟩
    have isChild := child?_of_mem_children (mem_children_of_parent? member around)
    exact ⟨assignment, of_decide_eq_true isAssignment, isFirst ▸ isChild⟩
  · rintro ⟨assignment, isAssignment, isChild⟩
    refine ⟨?_, assignment, parent?_of_child? isChild, decide_eq_true isAssignment⟩
    obtain ⟨node, -, rfl⟩ := Option.map_eq_some_iff.mp isChild
    rfl

theorem isAssigned_iff {root : Node} {place : Place} (member : place ∈ places root) :
    (place.parent?.any fun access => access.kind = .memberExpression && isTarget access) = true ↔
      IsAssigned place := by
  rw [Option.any_eq_true]
  constructor
  · rintro ⟨access, around, accepted⟩
    obtain ⟨isMember, target⟩ := Bool.and_eq_true_iff.mp accepted
    have inTree := enclosing_subset_places member
      (enclosing_of_parent? around ▸ List.mem_cons_self)
    obtain ⟨assignment, isAssignment, isChild⟩ := (isTarget_iff inTree).mp target
    exact ⟨access, assignment, around, of_decide_eq_true isMember, isAssignment, isChild⟩
  · rintro ⟨access, assignment, around, isMember, isAssignment, isChild⟩
    have inTree := enclosing_subset_places member
      (enclosing_of_parent? around ▸ List.mem_cons_self)
    have target := (isTarget_iff inTree).mpr ⟨assignment, isAssignment, isChild⟩
    exact ⟨access, around, Bool.and_eq_true_iff.mpr ⟨decide_eq_true isMember, target⟩⟩

theorem isConcerned_iff {root : Node} {place : Place} (member : place ∈ places root)
    (given : Settings engine) :
    isConcerned given place = true ↔ place.node.attributes.role = some .declaration ∨
      place.node.attributes.role = some .property ∧ given.properties = .always ∧
        IsAssigned place := by
  rw [isConcerned, ← isAssigned_iff member]
  cases place.node.attributes.role with
  | none => simp
  | some role =>
      cases role with
      | property => cases given.properties <;> simp
      | _ => simp

theorem isReported_iff {root : Node} {place : Place} (member : place ∈ places root)
    (given : Settings engine) : isReported given place = true ↔ IsMisnamed given place := by
  have named : (place.node.name?.any fun name =>
      !isCamelCase name && !given.allow.any (engine.matchesIn · name)) = true ↔
      ∃ name, place.node.name? = some name ∧ IsOutOfCase name ∧
        ∀ pattern ∈ given.allow, engine.matchesIn pattern name = false := by
    simp [Option.any_eq_true, isCamelCase_eq_false_iff]
  rw [isReported, Bool.and_eq_true, Bool.and_eq_true, decide_eq_true_eq, named,
    isConcerned_iff member]
  constructor
  · rintro ⟨⟨identifier, role⟩, name⟩
    exact ⟨identifier, name, role⟩
  · rintro ⟨identifier, name, role⟩
    exact ⟨⟨identifier, role⟩, name⟩

theorem not_isMisnamed_of_ne_target {given : Settings engine}
    {assignment target access place : Place}
    (isTarget : assignment.child? 0 = some target) (other : access ≠ target)
    (only : ∀ around : Place, access.parent? = some around →
      around.kind = .assignmentExpression → around = assignment)
    (isChild : place ∈ access.children)
    (noDeclaration : place.node.attributes.role ≠ some .declaration) :
    ¬ IsMisnamed given place := by
  rintro ⟨-, -, declared | ⟨-, -, parent, around, isParent, -, isAssignment, isFirst⟩⟩
  · exact noDeclaration declared
  · obtain rfl : access = parent :=
      Option.some.inj ((parent?_of_mem_children isChild).symm.trans isParent)
    obtain rfl := only around (parent?_of_child? isFirst) isAssignment
    exact other (Option.some.inj (isFirst.symm.trans isTarget))

/-! ## What is reported -/

/--
One report on each misnamed identifier, where it starts.  Of what stands in an assignment only
the first child is assigned to: a member access elsewhere in it, even one that is the same
node, has no property that is reported, unless it is the child of a further assignment.
-/
theorem reports_misnamed_identifiers {registry : Registry} (reachable : registry.Reachable)
    {policy : Policy} {id : String} {plugin : Option String}
    (member : ⟨id, plugin, rule engine⟩ ∈ registry.rules) {binding : RuleBinding}
    (enabled : policy.activeBinding? id = some binding)
    (valid : (rule engine).validate binding.options = .ok ()) (tree : SyntaxTree) :
    ∃ given, settings engine binding.options = .ok given ∧
      (registry.evaluate policy tree).diagnostics.filter (Diagnostic.ofRule id) =
        (FileReport.ofDiagnostics tree.path
          (((places tree.root).filter (isReported given)).map fun place =>
            let name := place.node.name?.getD ""
            { ruleId := id, code := "not_camel_case", severity := binding.severity
              message := s!"Identifier '{name}' is not in camel case."
              position := place.node.startPosition, fingerprint := none })).diagnostics ∧
      (∀ place ∈ places tree.root, isReported given place = true ↔ IsMisnamed given place) ∧
      ∀ assignment ∈ places tree.root, assignment.kind = .assignmentExpression →
        ∀ target access : Place, assignment.child? 0 = some target →
          access ∈ assignment.inside → access ≠ target →
          (∀ around : Place, access.parent? = some around →
            around.kind = .assignmentExpression → around = assignment) →
          ∀ place ∈ access.children, place.node.attributes.role ≠ some .declaration →
            isReported given place = false := by
  obtain ⟨given, isSettings⟩ := Rule.validated_eq_ok_iff.mp valid
  have created : (rule engine).create binding.options = .ok given :=
    Rule.created_eq_ok_iff.mpr ⟨given, isSettings, rfl⟩
  refine ⟨given, isSettings, ?_, fun place inTree => isReported_iff inTree given, ?_⟩
  · have shown : ∀ place, isReported given place = true → place.kind ∈ (rule engine).interests := by
      intro place reported
      simp_all [isReported, rule]
    refine (Registry.filter_ofRule_evaluate_of_flags reachable member enabled judgesBy created
      shown (fun place isShown => findings_eq given _ ?_) tree).trans rfl
    simpa [rule] using isShown
  · intro assignment inTree isAssignment target access isTarget inside other only place isChild
      noDeclaration
    have inAccess : place ∈ access.inside := by
      rw [inside_eq_flatMap]
      exact List.mem_flatMap.mpr ⟨place, isChild, List.mem_cons_self⟩
    have placeInTree := inside_subset_places (inside_subset_places inTree inside) inAccess
    rw [← Bool.not_eq_true, isReported_iff placeInTree]
    exact not_isMisnamed_of_ne_target isTarget other only isChild noDeclaration

/--
Of two accesses that are one node, locations included, the first one is assigned to.  A pattern
allows another name that is not in camel case.
-/
theorem reports_property_of_first_access :
    let options : List Value := [.object [("allow", .array [.string "^x_"])]]
    let policy : Policy :=
      { environments := ∅, capabilities := .default, globals := ∅
        rules := (∅ : Dictionary RuleBinding).insert "camelcase" ⟨.advisory, options⟩ }
    let allowed : Node := Build.singleVariable .let "x_y" none
    let access : Node := Build.member (Build.identifier "obj" .reference) "_a_b"
    let assignment : Node := Build.assignment access access
    let statement : Node := Build.statement .expressionStatement [assignment] true
    let tree : SyntaxTree := ⟨⟨"a.js"⟩, Build.node .program .empty [allowed, statement]⟩
    let around : List Located := [⟨assignment, 0⟩, ⟨statement, 1⟩, ⟨tree.root, 0⟩]
    let first : Place := ⟨⟨Build.property "_a_b", 1⟩, ⟨access, 0⟩ :: around⟩
    let second : Place := ⟨⟨Build.property "_a_b", 1⟩, ⟨access, 1⟩ :: around⟩
    ((Registry.builtIn .standard).evaluate policy tree).diagnostics.filter
        (Diagnostic.ofRule "camelcase") =
      [Diagnostic.stamped tree.path ⟨"camelcase", "not_camel_case", .advisory,
        "Identifier '_a_b' is not in camel case.", first.node.startPosition, none⟩] ∧
      ∃ given : Settings .standard, settings .standard options = .ok given ∧
        given.allow.length = 1 ∧ IsMisnamed given first ∧ isReported given second = false := by
  intro options policy allowed access assignment statement tree around first second
  have member : rule .standard ∈ builtIn .standard := by simp [builtIn]
  have enabled : policy.activeBinding? "camelcase" = some ⟨.advisory, options⟩ := rfl
  obtain ⟨given, isSettings, reported, misnamed, others⟩ := reports_misnamed_identifiers
    .builtIn (Registry.of_mem_rules_builtIn member) enabled rfl tree
  cases isSettings
  let assigning : Place := ⟨⟨assignment, 0⟩, around.tail⟩
  let target : Place := ⟨⟨access, 0⟩, around⟩
  let value : Place := ⟨⟨access, 1⟩, around⟩
  have firstInTree : first ∈ places tree.root :=
    List.mem_of_getElem? (show (places tree.root)[8]? = some first from rfl)
  have inTree : assigning ∈ places tree.root :=
    List.mem_of_getElem? (show (places tree.root)[5]? = some assigning from rfl)
  have inside : value ∈ assigning.inside :=
    List.mem_of_getElem? (show assigning.inside[3]? = some value from rfl)
  have other : value ≠ target := fun same =>
    absurd (congrArg (fun place : Place => place.target.index) same) (by decide)
  have isChild : second ∈ value.children := List.mem_cons_of_mem _ List.mem_cons_self
  refine ⟨reported.trans (FileReport.ofDiagnostics_toList tree.path (some _)), _, rfl, rfl,
    (misnamed first firstInTree).mp rfl, ?_⟩
  exact others assigning inTree rfl target value rfl inside other
    (fun _ isAround _ => (Option.some.inj isAround).symm) second isChild (by decide)

end ScriptLint.Rules.Camelcase
