import Mathlib.Data.List.Nodup
import ScriptLint.Proofs.Lexical.Binders
import ScriptLint.Proofs.Lexical.Nesting

/-!
# The parameters of a function

A function that is laid out well holds an identifier with its name, its parameters and
its body, in this order, and a parameter holds an identifier and nothing else.  If no
two parameters have the same name, each is a binder, whatever else the body
declares in the same scope: they stand before the body.  Among the binders of the
function they are numbered in the order in which they stand.
-/

namespace ScriptLint

/-! ## Layout -/

def Node.isDeclaration (node : Node) : Bool :=
  (node.nameInRole? .declaration).isSome && node.children.isEmpty

def Node.isParameter (node : Node) : Bool :=
  node.kind = .parameter &&
    match node.children with
    | [identifier] => identifier.isDeclaration
    | _ => false

theorem Node.kind_of_isParameter {node : Node} (isParameter : node.isParameter = true) :
    node.kind = .parameter := by
  rw [Node.isParameter, Bool.and_eq_true] at isParameter
  exact of_decide_eq_true isParameter.1

def Node.isFunction (node : Node) : Bool :=
  node.kind = .functionDeclaration &&
    match node.children with
    | [] => false
    | name :: others =>
        name.isDeclaration && others.dropLast.all isParameter &&
          others.getLast?.any (·.kind = .blockStatement)

theorem Node.exists_children_of_isFunction {node : Node} (isFunction : node.isFunction = true) :
    ∃ name parameters body, node.children = name :: (parameters ++ [body]) ∧
      name.isDeclaration = true ∧ (∀ parameter ∈ parameters, parameter.isParameter = true) ∧
      body.kind = .blockStatement := by
  rw [Node.isFunction, Bool.and_eq_true] at isFunction
  cases children : node.children with
  | nil => simp [children] at isFunction
  | cons name others =>
      simp only [children, Bool.and_eq_true, List.all_eq_true, Option.any_eq_true,
        decide_eq_true_eq] at isFunction
      obtain ⟨-, ⟨isName, areParameters⟩, body, isLast, isBody⟩ := isFunction
      refine ⟨name, others.dropLast, body, ?_, isName, areParameters, isBody⟩
      rw [List.dropLast_append_getLast? body (Option.mem_def.mpr isLast)]

namespace Lexical

namespace Place

def parameters (function : Place) : List Place :=
  (function.children.filter (·.kind = .parameter)).filterMap (·.child? 0)

/--
Whether a function has the children that it should have.  Of what stands deeper inside
it is asked only that parameters belong to functions.
-/
def isLaidOut (function : Place) : Bool :=
  function.node.isFunction && function.inside.all fun place =>
    place.kind = .parameter → place.parent?.any (·.kind = .functionDeclaration)

end Place

theorem inside_of_isDeclaration {place : Place} (declares : place.node.isDeclaration = true) :
    place.inside = [] := by
  rw [Node.isDeclaration, Bool.and_eq_true, List.isEmpty_iff] at declares
  rw [Place.inside, declares.2]
  rfl

theorem inside_of_isParameter {parameter : Place}
    (isParameter : parameter.node.isParameter = true) :
    ∃ identifier, parameter.child? 0 = some identifier ∧ parameter.inside = [identifier] ∧
      identifier.node.isDeclaration = true := by
  rw [Node.isParameter, Bool.and_eq_true] at isParameter
  split at isParameter
  · rename_i node only
    have declares : node.isDeclaration = true := isParameter.2
    refine ⟨⟨⟨node, 0⟩, parameter.target :: parameter.ancestors⟩, ?_, ?_, declares⟩
    · simp [Place.child?, Node.child?, only]
    · have below := inside_of_isDeclaration (show Node.isDeclaration (Place.node
        ⟨⟨node, 0⟩, parameter.target :: parameter.ancestors⟩) = true from declares)
      rw [Place.inside, only, placesFromAll, placesFrom_eq_cons, below]
      rfl
  · simp at isParameter

/-! ## Scopes of declarations -/

theorem mem_enclosing_of_declaringScope? {place scope : Place}
    (declares : place.declaringScope? = some scope) : scope ∈ place.enclosing := by
  obtain ⟨target, ancestors⟩ := place
  cases ancestors with
  | nil => cases declares
  | cons parent outer =>
      rw [Place.declaringScope?, Option.bind_eq_some_iff] at declares
      obtain ⟨around, isParent, inScope⟩ := declares
      cases isParent
      split at inScope
      · split at inScope
        · exact List.mem_of_find?_eq_some inScope
        · exact List.mem_of_find?_eq_some inScope
        · exact List.mem_of_find?_eq_some inScope
      · exact List.mem_of_find?_eq_some inScope
      · exact List.mem_cons_of_mem _ (List.mem_of_find?_eq_some inScope)
      · cases inScope

theorem declaringScope?_of_scope {root : Node} {binder : Binder} {scope : Place}
    (member : binder ∈ declaring (places root)) (isPlace : scope ∈ places root)
    (inScope : binder.binding.scope = scope.address) :
    binder.place.declaringScope? = some scope := by
  obtain ⟨inTree, declares⟩ := binding?_of_mem_declaring member
  obtain ⟨found, isScope, same⟩ :=
    Option.map_eq_some_iff.mp (binding?_eq_some_iff.mp declares).2.2.1
  have foundInTree := enclosing_subset_places inTree (mem_enclosing_of_declaringScope? isScope)
  rw [eq_of_address_eq isPlace foundInTree (inScope.symm.trans same.symm), isScope]

theorem find?_isFor_eq (declared : List Binder) (scope : Address) (name : String) :
    declared.find? (·.isFor scope name) =
      (declared.filter (·.binding.scope = scope)).find? (·.isFor scope name) := by
  rw [List.find?_filter]
  congr 1
  funext binder
  simp [Binder.isFor, Binding.isFor]

theorem name?_of_mem_declaring {places : List Place} {binder : Binder}
    (member : binder ∈ declaring places) :
    binder.place.node.name? = some binder.binding.name :=
  (Option.ite_none_right_eq_some.mp
    (binding?_eq_some_iff.mp (binding?_of_mem_declaring member).2).1).2

theorem filter_scope_eq_nil {root : Node} {scope : Place} (isPlace : scope ∈ places root)
    {part : List Place} (inTree : part ⊆ places root) (apart : part.Disjoint scope.inside) :
    (declaring part).filter (·.binding.scope = scope.address) = [] := by
  rw [List.filter_eq_nil_iff]
  intro binder member inScope
  obtain ⟨inPart, declares⟩ := binding?_of_mem_declaring member
  have isScope := declaringScope?_of_scope (mem_declaring (inTree inPart) declares) isPlace
    (of_decide_eq_true inScope)
  exact apart inPart (mem_inside (inTree inPart) (mem_enclosing_of_declaringScope? isScope))

theorem filter_scope_declaring {root : Node} {scope : Place} (isPlace : scope ∈ places root) :
    (declaring (places root)).filter (·.binding.scope = scope.address) =
      (declaring scope.inside).filter (·.binding.scope = scope.address) := by
  obtain ⟨before, after, split⟩ := exists_places_eq isPlace
  have regroup : places root = (before ++ [scope]) ++ (scope.inside ++ after) := by
    rw [split, List.append_assoc, List.singleton_append]
  have distinct : (places root).Nodup := .of_map _ (nodup_address_places root)
  rw [regroup, List.nodup_append', List.disjoint_append_right] at distinct
  obtain ⟨-, behind, ahead, -⟩ := distinct
  have apart := (List.nodup_append'.mp behind).2.2
  have earlier := filter_scope_eq_nil isPlace
    (fun other member => regroup ▸ List.mem_append_left _ member) ahead
  have later := filter_scope_eq_nil isPlace
    (fun other member => regroup ▸ List.mem_append_right _ (List.mem_append_right _ member))
    (List.disjoint_symm apart)
  rw [regroup, declaring_append, List.filter_append, earlier, declaring_append,
    List.filter_append, later, List.nil_append, List.append_nil]

/-! ## Binders of parameters -/

theorem Place.isScope_of_functionDeclaration {place : Place}
    (kind : place.kind = .functionDeclaration) : place.isScope = true := by
  simp [isScope, isFunctionScope, kind]

theorem Place.isScope_of_parameter {place : Place} (kind : place.kind = .parameter) :
    place.isScope = false := by
  simp [isScope, isFunctionScope, kind]

theorem declaringScope?_of_parameter {function parameter identifier : Place}
    (isFunction : function.kind = .functionDeclaration)
    (isOwner : parameter.parent? = some function) (isParameter : parameter.kind = .parameter)
    (isParent : identifier.parent? = some parameter) :
    identifier.declaringScope? = some function := by
  rw [Place.declaringScope?, isParent, Option.bind_some, isParameter]
  change identifier.enclosing.find? Place.isScope = some function
  rw [enclosing_of_parent? isParent, List.find?_cons, Place.isScope_of_parameter isParameter,
    enclosing_of_parent? isOwner, List.find?_cons, Place.isScope_of_functionDeclaration isFunction]

theorem binding?_of_parameter {function parameter identifier : Place}
    (isFunction : function.kind = .functionDeclaration)
    (isOwner : parameter.parent? = some function) (isParameter : parameter.kind = .parameter)
    (isParent : identifier.parent? = some parameter) {name : String}
    (named : identifier.node.nameInRole? .declaration = some name) :
    identifier.binding? = some ⟨name, .parameter parameter.number, function.address,
      identifier.node.startPosition, true⟩ := by
  have inScope := declaringScope?_of_parameter isFunction isOwner isParameter isParent
  rw [binding?_eq_some_iff]
  refine ⟨named, ?_, ?_, rfl, ?_⟩
  · rw [Place.bindingKind?, isParent, Option.bind_some, isParameter]
  · rw [inScope, Option.map_some]
  · rw [Place.isInitialized, isParent, Option.all_some, isParameter]

theorem exists_parent_of_parameter {place : Place} {index : Nat}
    (binds : place.bindingKind? = some (.parameter index)) :
    ∃ parent, place.parent? = some parent ∧ parent.kind = .parameter := by
  obtain ⟨parent, isParent, binds⟩ := Option.bind_eq_some_iff.mp binds
  refine ⟨parent, isParent, ?_⟩
  cases kind : parent.kind <;> simp [kind] at binds
  rfl

def Binder.parameterIndex? (scope : Address) (binder : Binder) : Option Nat :=
  match binder.binding.kind with
  | .parameter index => if binder.binding.scope = scope then some index else none
  | _ => none

theorem Binder.parameterIndex?_eq_some_iff {scope : Address} {binder : Binder} {index : Nat} :
    binder.parameterIndex? scope = some index ↔
      binder.binding.kind = .parameter index ∧ binder.binding.scope = scope := by
  rw [parameterIndex?]
  cases binder.binding.kind <;> simp [and_comm]

theorem number_eq {function parameter : Place} (isChild : parameter ∈ function.children)
    (kind : parameter.kind = .parameter) :
    parameter.number = ((function.node.children.take parameter.target.index).filter
      (·.kind = .parameter)).length := by
  rw [Place.number, parent?_of_mem_children isChild, kind]

theorem number_lt_number {function first second : Place} (isChild : first ∈ function.children)
    (isOther : second ∈ function.children) (kind : first.kind = .parameter)
    (otherKind : second.kind = .parameter) (before : first.target.index < second.target.index) :
    first.number < second.number := by
  have isNode : function.node.children[first.target.index]? = some first.node := by
    obtain ⟨located, member, rfl⟩ := List.mem_map.mp isChild
    exact (getElem?_of_mem_locatedFrom member).2
  have own : [first.node].filter (·.kind = .parameter) = [first.node] := by
    simp [show first.node.kind = _ from kind]
  have prior : (function.node.children.take (first.target.index + 1)).Sublist
      (function.node.children.take second.target.index) := List.take_sublist_take_left before
  have within := (prior.filter (·.kind = .parameter)).length_le
  rw [List.take_add_one, isNode, Option.toList_some, List.filter_append, own, List.length_append,
    ← number_eq isChild kind, ← number_eq isOther otherKind] at within
  exact within

structure HasParts (function name : Place) (parameters : List Place) (body : Place) : Prop where
  kind : function.kind = .functionDeclaration
  children : function.children = name :: (parameters ++ [body])
  name : name.node.isDeclaration = true
  parameters : ∀ parameter ∈ parameters, parameter.node.isParameter = true
  body : body.kind = .blockStatement

theorem Place.exists_parts {function : Place} (isFunction : function.node.isFunction = true) :
    ∃ name parameters body, HasParts function name parameters body := by
  obtain ⟨name, parameters, body, children, isName, areParameters, isBody⟩ :=
    Node.exists_children_of_isFunction isFunction
  have kind : function.kind = .functionDeclaration := by
    rw [Node.isFunction, Bool.and_eq_true] at isFunction
    exact of_decide_eq_true isFunction.1
  let below := function.target :: function.ancestors
  refine ⟨⟨⟨name, 0⟩, below⟩, (locatedFrom 1 parameters).map fun child => ⟨child, below⟩,
    ⟨⟨body, 1 + parameters.length⟩, below⟩, kind, ?_, isName, ?_, isBody⟩
  · rw [Place.children, Node.located, children, locatedFrom, locatedFrom_append, List.map_cons,
      List.map_append]
    rfl
  · intro parameter member
    obtain ⟨located, isLocated, rfl⟩ := List.mem_map.mp member
    exact areParameters _ (List.mem_of_getElem? (getElem?_of_mem_locatedFrom isLocated).2)

namespace HasParts

variable {function name body : Place} {parameters : List Place} {root : Node}

theorem filter_children (parts : HasParts function name parameters body) :
    function.children.filter (·.kind = .parameter) = parameters := by
  have others : name.kind = .identifier := by
    have declares := parts.name
    rw [Node.isDeclaration, Bool.and_eq_true, Option.isSome_iff_exists] at declares
    obtain ⟨text, named⟩ := declares.1
    exact (Option.ite_none_right_eq_some.mp named).1.1
  have all : parameters.filter (·.kind = .parameter) = parameters := by
    rw [List.filter_eq_self]
    intro parameter member
    exact decide_eq_true (Node.kind_of_isParameter (parts.parameters parameter member))
  rw [parts.children, List.filter_cons, List.filter_append, all]
  simp [others, parts.body]

theorem parameters_eq (parts : HasParts function name parameters body) :
    function.parameters = parameters.filterMap (·.child? 0) := by
  rw [Place.parameters, parts.filter_children]

theorem inside_eq (parts : HasParts function name parameters body) :
    function.inside =
      name :: (parameters.flatMap (fun parameter => parameter :: parameter.inside) ++
        body :: body.inside) := by
  rw [inside_eq_flatMap, parts.children, List.flatMap_cons, List.flatMap_append,
    inside_of_isDeclaration parts.name]
  simp

theorem declaring_parameters (parts : HasParts function name parameters body) :
    declaring (parameters.flatMap fun parameter => parameter :: parameter.inside) =
      declaring function.parameters := by
  rw [parts.parameters_eq]
  have areParameters := parts.parameters
  clear parts
  induction parameters with
  | nil => rfl
  | cons parameter rest ih =>
      obtain ⟨identifier, isFirst, inside, -⟩ :=
        inside_of_isParameter (areParameters parameter List.mem_cons_self)
      have kind := Node.kind_of_isParameter (areParameters parameter List.mem_cons_self)
      have declaresNothing := Place.binding?_of_kind (by simp [kind] : parameter.node.kind ≠ _)
      have own : declaring [parameter, identifier] = declaring [identifier] := by
        simp [declaring, declaresNothing]
      rw [List.flatMap_cons, declaring_append, inside, own, List.filterMap_cons, isFirst,
        ih fun other member => areParameters other (List.mem_cons_of_mem _ member),
        ← declaring_append]
      rfl

theorem mem_children (parts : HasParts function name parameters body) {parameter : Place}
    (member : parameter ∈ parameters) : parameter ∈ function.children := by
  rw [parts.children]
  exact List.mem_cons_of_mem name (List.mem_append_left [body] member)

theorem binding?_of_mem (parts : HasParts function name parameters body) {parameter : Place}
    (member : parameter ∈ parameters) {identifier : Place}
    (isFirst : parameter.child? 0 = some identifier) {text : String}
    (named : identifier.node.nameInRole? .declaration = some text) :
    identifier.binding? = some ⟨text, .parameter parameter.number, function.address,
      identifier.node.startPosition, true⟩ :=
  binding?_of_parameter parts.kind (parent?_of_mem_children (parts.mem_children member))
    (Node.kind_of_isParameter (parts.parameters parameter member)) (parent?_of_child? isFirst) named

theorem parameterIndex?_eq (parts : HasParts function name parameters body) {parameter : Place}
    (member : parameter ∈ parameters) {binder : Binder}
    (isFirst : parameter.child? 0 = some binder.place)
    (declares : binder.place.binding? = some binder.binding) :
    binder.parameterIndex? function.address = some parameter.number := by
  have named := (binding?_eq_some_iff.mp declares).1
  have binds := parts.binding?_of_mem member isFirst named
  rw [declares, Option.some.injEq] at binds
  rw [Binder.parameterIndex?_eq_some_iff, binds]
  exact ⟨rfl, rfl⟩

theorem exists_parameterIndex? (parts : HasParts function name parameters body)
    {binder : Binder} (member : binder ∈ declaring function.parameters) :
    ∃ index, binder.parameterIndex? function.address = some index := by
  obtain ⟨isIdentifier, declares⟩ := binding?_of_mem_declaring member
  rw [parts.parameters_eq, List.mem_filterMap] at isIdentifier
  obtain ⟨parameter, isParameter, isFirst⟩ := isIdentifier
  exact ⟨_, parts.parameterIndex?_eq isParameter isFirst declares⟩

theorem scope_of_mem_declaring (parts : HasParts function name parameters body)
    {binder : Binder} (member : binder ∈ declaring function.parameters) :
    binder.binding.scope = function.address := by
  obtain ⟨index, isIndex⟩ := parts.exists_parameterIndex? member
  exact (Binder.parameterIndex?_eq_some_iff.mp isIndex).2

theorem scope_ne_of_name (parts : HasParts function name parameters body)
    (inTree : function ∈ places root) {binder : Binder}
    (member : binder ∈ declaring (places root)) (isName : binder.place = name) :
    binder.binding.scope ≠ function.address := by
  intro inScope
  have declares := declaringScope?_of_scope member inTree inScope
  have isChild : name ∈ function.children := by
    rw [parts.children]
    exact List.mem_cons_self
  have parent? : binder.place.parent? = some function := isName ▸ parent?_of_mem_children isChild
  rw [Place.declaringScope?, parent?, Option.bind_some, parts.kind] at declares
  exact Nat.lt_irrefl _ (length_ancestors_of_mem_enclosing (List.mem_of_find?_eq_some declares))

theorem parameterIndex?_of_mem_body (parts : HasParts function name parameters body)
    (inTree : function ∈ places root) (laidOut : function.isLaidOut = true) {binder : Binder}
    (member : binder ∈ declaring (places root)) (inBody : binder.place ∈ body :: body.inside) :
    binder.parameterIndex? function.address = none := by
  by_contra isParameter
  obtain ⟨index, isIndex⟩ := Option.ne_none_iff_exists'.mp isParameter
  obtain ⟨binds, inScope⟩ := Binder.parameterIndex?_eq_some_iff.mp isIndex
  obtain ⟨placed, isBinding⟩ := binding?_of_mem_declaring member
  obtain ⟨named, isKind, -⟩ := binding?_eq_some_iff.mp isBinding
  rw [binds] at isKind
  obtain ⟨parameter, isParent, kind⟩ := exists_parent_of_parameter isKind
  have around := enclosing_of_parent? isParent
  have parameterInTree : parameter ∈ places root :=
    enclosing_subset_places placed (around ▸ List.mem_cons_self)
  have below : binder.place ∈ body.inside := by
    refine (List.mem_cons.mp inBody).resolve_left fun same => ?_
    have identifier := (Option.ite_none_right_eq_some.mp named).1.1
    rw [same, show body.node.kind = _ from parts.body] at identifier
    cases identifier
  have bodyAround : body ∈ parameter.enclosing := by
    have encloses := mem_enclosing_of_mem_inside below
    rw [around, List.mem_cons] at encloses
    refine encloses.resolve_left fun same => ?_
    rw [← same, parts.body] at kind
    cases kind
  have inside : parameter ∈ function.inside := by
    rw [parts.inside_eq]
    simp [mem_inside parameterInTree bodyAround]
  obtain ⟨owner, isOwner, ownerKind⟩ : ∃ owner, parameter.parent? = some owner ∧
      owner.kind = .functionDeclaration := by
    rw [Place.isLaidOut, Bool.and_eq_true, List.all_eq_true] at laidOut
    simpa [kind, Option.any_eq_true] using laidOut.2 parameter inside
  have declares := declaringScope?_of_scope member inTree inScope
  rw [declaringScope?_of_parameter ownerKind isOwner kind isParent] at declares
  obtain rfl : owner = function := Option.some.inj declares
  have isChild : body ∈ owner.children := by
    rw [parts.children]
    simp
  exact notMem_enclosing_of_sibling isChild isOwner bodyAround

/-- In the scope of a function its parameters are declared before everything else. -/
theorem exists_filter_scope_declaring (parts : HasParts function name parameters body)
    (inTree : function ∈ places root) (laidOut : function.isLaidOut = true) :
    ∃ others, (declaring (places root)).filter (·.binding.scope = function.address) =
        declaring function.parameters ++ others ∧
      ∀ other ∈ others, other.parameterIndex? function.address = none := by
  have placed := inside_subset_places inTree
  rw [parts.inside_eq] at placed
  rw [filter_scope_declaring inTree, parts.inside_eq, ← List.singleton_append, declaring_append,
    declaring_append, List.filter_append, List.filter_append, parts.declaring_parameters]
  have ofName : (declaring [name]).filter (·.binding.scope = function.address) = [] := by
    rw [List.filter_eq_nil_iff]
    intro binder member inScope
    obtain ⟨isName, declares⟩ := binding?_of_mem_declaring member
    rw [List.mem_singleton] at isName
    refine parts.scope_ne_of_name inTree (mem_declaring (placed ?_) declares) isName
      (of_decide_eq_true inScope)
    exact isName ▸ List.mem_cons_self
  have ofParameters : (declaring function.parameters).filter (·.binding.scope = function.address) =
      declaring function.parameters := by
    rw [List.filter_eq_self]
    intro binder member
    exact decide_eq_true (parts.scope_of_mem_declaring member)
  refine ⟨_, by rw [ofName, ofParameters, List.nil_append], ?_⟩
  intro other member
  obtain ⟨inBody, declares⟩ := binding?_of_mem_declaring (List.mem_filter.mp member).1
  exact parts.parameterIndex?_of_mem_body inTree laidOut
    (mem_declaring (placed (List.mem_cons_of_mem name (List.mem_append_right _ inBody))) declares)
    inBody

theorem find?_of_mem_declaring_parameters (parts : HasParts function name parameters body)
    (inTree : function ∈ places root) (laidOut : function.isLaidOut = true)
    (distinct : (function.parameters.map (·.node.name?)).Nodup) {binder : Binder}
    (member : binder ∈ declaring function.parameters) :
    (declaring (places root)).find? (·.isFor function.address binder.binding.name) =
      some binder := by
  obtain ⟨others, inScope, -⟩ := parts.exists_filter_scope_declaring inTree laidOut
  have ofTree {other : Binder} (isParameter : other ∈ declaring function.parameters) :
      other ∈ declaring (places root) :=
    (List.mem_filter.mp (inScope ▸ List.mem_append_left others isParameter)).1
  have own : binder.isFor function.address binder.binding.name = true := by
    simp [Binder.isFor, Binding.isFor, parts.scope_of_mem_declaring member]
  obtain ⟨first, found⟩ :=
    Option.isSome_iff_exists.mp (List.find?_isSome.mpr ⟨binder, member, own⟩)
  have isFirst := List.mem_of_find?_eq_some found
  have sameName : first.binding.name = binder.binding.name := by
    have isFor := List.find?_some found
    simp only [Binder.isFor, Binding.isFor, decide_eq_true_eq] at isFor
    exact isFor.2
  have samePlace : first.place = binder.place :=
    List.inj_on_of_nodup_map distinct (binding?_of_mem_declaring isFirst).1
      (binding?_of_mem_declaring member).1
      (by rw [name?_of_mem_declaring isFirst, name?_of_mem_declaring member, sameName])
  rw [find?_isFor_eq, inScope, List.find?_append, found, Option.some_or,
    eq_of_mem_declaring (ofTree isFirst) (ofTree member) (congrArg Place.address samePlace)]

theorem filter_parameterIndex?_binders (parts : HasParts function name parameters body)
    (inTree : function ∈ places root) (laidOut : function.isLaidOut = true)
    (distinct : (function.parameters.map (·.node.name?)).Nodup) :
    (binders root).filter (fun binder => (binder.parameterIndex? function.address).isSome) =
      declaring function.parameters := by
  obtain ⟨others, inScope, noParameters⟩ := parts.exists_filter_scope_declaring inTree laidOut
  have isFirst : ∀ binder ∈ declaring function.parameters,
      ((binder.parameterIndex? function.address).isSome &&
        ((declaring (places root)).find? (·.isFor binder.binding.scope binder.binding.name)).any
          (·.place.address = binder.place.address)) = true := by
    intro binder member
    obtain ⟨index, isIndex⟩ := parts.exists_parameterIndex? member
    rw [isIndex, parts.scope_of_mem_declaring member,
      parts.find?_of_mem_declaring_parameters inTree laidOut distinct member]
    simp
  have toScope : (binders root).filter (fun binder =>
      (binder.parameterIndex? function.address).isSome) =
      ((declaring (places root)).filter (·.binding.scope = function.address)).filter fun binder =>
        (binder.parameterIndex? function.address).isSome &&
          ((declaring (places root)).find? (·.isFor binder.binding.scope binder.binding.name)).any
            (·.place.address = binder.place.address) := by
    rw [binders, firsts, List.filter_filter, List.filter_filter]
    apply List.filter_congr
    intro binder _
    cases isIndex : binder.parameterIndex? function.address with
    | none => simp
    | some index => simp [(Binder.parameterIndex?_eq_some_iff.mp isIndex).2]
  rw [toScope, inScope, List.filter_append, List.filter_eq_self.mpr isFirst,
    List.filter_eq_nil_iff.mpr, List.append_nil]
  intro other member
  simp [noParameters other member]

theorem pairwise_declaring_parameters (parts : HasParts function name parameters body) :
    (declaring function.parameters).Pairwise fun first second =>
      (first.parameterIndex? function.address).getD 0 <
        (second.parameterIndex? function.address).getD 0 := by
  have inOrder : parameters.Sublist function.children := by
    rw [← parts.filter_children]
    exact List.filter_sublist
  rw [parts.parameters_eq, declaring, List.pairwise_filterMap, List.pairwise_filterMap]
  refine ((pairwise_children function).sublist inOrder).imp_of_mem ?_
  intro first second isFirst isSecond before identifier ofFirst other ofSecond
    binder declares otherBinder otherDeclares
  obtain ⟨binding, isBinding, rfl⟩ := Option.map_eq_some_iff.mp declares
  obtain ⟨otherBinding, isOther, rfl⟩ := Option.map_eq_some_iff.mp otherDeclares
  have index : Binder.parameterIndex? function.address ⟨identifier, binding⟩ = some first.number :=
    parts.parameterIndex?_eq isFirst ofFirst isBinding
  have otherIndex : Binder.parameterIndex? function.address ⟨other, otherBinding⟩ =
      some second.number := parts.parameterIndex?_eq isSecond ofSecond isOther
  rw [index, otherIndex]
  exact number_lt_number (inOrder.subset isFirst) (inOrder.subset isSecond)
    (Node.kind_of_isParameter (parts.parameters first isFirst))
    (Node.kind_of_isParameter (parts.parameters second isSecond)) before

theorem map_place_declaring_parameters (parts : HasParts function name parameters body) :
    (declaring function.parameters).map (·.place) = function.parameters := by
  rw [declaring, List.map_filterMap]
  refine (List.filterMap_congr fun place member => ?_).trans List.filterMap_some
  rw [parts.parameters_eq, List.mem_filterMap] at member
  obtain ⟨parameter, isParameter, isFirst⟩ := member
  obtain ⟨identifier, isIdentifier, -, declares⟩ :=
    inside_of_isParameter (parts.parameters parameter isParameter)
  obtain rfl : identifier = place := Option.some.inj (isIdentifier.symm.trans isFirst)
  rw [Node.isDeclaration, Bool.and_eq_true, Option.isSome_iff_exists] at declares
  obtain ⟨⟨text, named⟩, -⟩ := declares
  rw [parts.binding?_of_mem isParameter isFirst named]
  rfl

end HasParts

/--
With distinct names the parameters of a function are the binders that are numbered in
its scope, in their order.
-/
theorem parameters_are_binders {root : Node} {function : Place} (inTree : function ∈ places root)
    (laidOut : function.isLaidOut = true)
    (distinct : (function.parameters.map (·.node.name?)).Nodup) :
    let own := (binders root).filter fun binder =>
      (binder.parameterIndex? function.address).isSome
    own.map (·.place) = function.parameters ∧ own.Pairwise fun first second =>
      (first.parameterIndex? function.address).getD 0 <
        (second.parameterIndex? function.address).getD 0 := by
  have isFunction : function.node.isFunction = true := by
    rw [Place.isLaidOut, Bool.and_eq_true] at laidOut
    exact laidOut.1
  obtain ⟨name, parameters, body, parts⟩ := Place.exists_parts isFunction
  intro own
  rw [show own = _ from parts.filter_parameterIndex?_binders inTree laidOut distinct]
  exact ⟨parts.map_place_declaring_parameters, parts.pairwise_declaring_parameters⟩

end Lexical

end ScriptLint
