import ScriptLint.Environment.Scope
import ScriptLint.Proofs.Dictionary.Lookup

/-!
# What a scope grants

Environments are joined one after another onto the one that is always in force.  On
each point, be it the mode of one name, the edition or the source type, the scope has
the greatest value that one of them offers, and none if none offers any.  There is a
scope just if all declared environments are in the table.
-/

namespace ScriptLint

/-! ## Greatest values -/

section Greatest

variable {α : Type} {rank : α → Nat} {given others : α → Prop}

/-- One of the given values that none of them exceeds, or absence if there is none. -/
def GreatestBy (rank : α → Nat) (given : α → Prop) : Option α → Prop
  | none => ∀ value, ¬ given value
  | some greatest => given greatest ∧ ∀ value, given value → rank value ≤ rank greatest

def higher (rank : α → Nat) (first second : α) : α :=
  if rank first < rank second then second else first

theorem GreatestBy.congr {greatest : Option α} (isGreatest : GreatestBy rank given greatest)
    (same : ∀ value, given value ↔ others value) : GreatestBy rank others greatest := by
  have equal : given = others := funext fun value => propext (same value)
  exact equal ▸ isGreatest

theorem greatestBy_self (rank : α → Nat) (value : Option α) :
    GreatestBy rank (value = some ·) value := by
  cases value <;> simp [GreatestBy]

theorem GreatestBy.joinOption {first second : Option α} (isFirst : GreatestBy rank given first)
    (isSecond : GreatestBy rank others second) :
    GreatestBy rank (fun value => given value ∨ others value)
      (joinOption (higher rank) first second) := by
  cases first with
  | none =>
      apply isSecond.congr
      intro value
      exact (or_iff_right (isFirst value)).symm
  | some one =>
      cases second with
      | none =>
          apply isFirst.congr
          intro value
          exact (or_iff_left (isSecond value)).symm
      | some two =>
          obtain ⟨isOne, oneBound⟩ := isFirst
          obtain ⟨isTwo, twoBound⟩ := isSecond
          simp only [ScriptLint.joinOption, GreatestBy, higher]
          split
          · refine ⟨.inr isTwo, ?_⟩
            rintro value (isGiven | isOther)
            · have := oneBound value isGiven
              omega
            · exact twoBound value isOther
          · refine ⟨.inl isOne, ?_⟩
            rintro value (isGiven | isOther)
            · exact oneBound value isGiven
            · have := twoBound value isOther
              omega

end Greatest

/-! ## The points of an environment -/

def AccessMode.rank : AccessMode → Nat
  | .readOnly => 0
  | .readWrite => 1

theorem AccessMode.join_eq_higher : join = higher rank := by
  funext first second
  cases first <;> cases second <;> rfl

namespace Environment

/-- A point on which joining environments takes the value of higher rank. -/
structure JoinsBy {α : Type} (rank : α → Nat) (point : Environment → Option α) : Prop where
  absent : point .empty = none
  joined : ∀ first second : Environment,
    point (first.join second) = joinOption (higher rank) (point first) (point second)

def modeOf? (name : String) (environment : Environment) : Option AccessMode :=
  environment.globals.get? name

theorem joinsBy_modeOf? (name : String) : JoinsBy AccessMode.rank (modeOf? name) where
  absent := rfl
  joined first second := by
    simp only [modeOf?, join, Globals.join, Dictionary.get?_overlay, ← AccessMode.join_eq_higher]
    cases first.globals.get? name <;> cases second.globals.get? name <;> rfl

theorem joinsBy_syntaxVersion : JoinsBy SyntaxVersion.year syntaxVersion := ⟨rfl, fun _ _ => rfl⟩

theorem joinsBy_sourceType : JoinsBy SourceType.rank sourceType := ⟨rfl, fun _ _ => rfl⟩

end Environment

namespace EnvironmentTable

variable {α : Type} {rank : α → Nat} {point : Environment → Option α} {table : EnvironmentTable}

def Offers (table : EnvironmentTable) (declared : String → Prop)
    (point : Environment → Option α) (value : α) : Prop :=
  ∃ id environment, (id = alwaysInForce ∨ declared id) ∧ table.get? id = some environment ∧
    point environment = some value

/-! ## Joining -/

theorem joinAll_greatest (joins : Environment.JoinsBy rank point) {given : α → Prop}
    {scope result : Environment} {ids : List String}
    (isScope : GreatestBy rank given (point scope))
    (succeeds : joinAll table scope ids = .ok result) :
    GreatestBy rank (fun value => given value ∨ ∃ id ∈ ids, ∃ environment,
      table.get? id = some environment ∧ point environment = some value) (point result) := by
  induction ids generalizing scope given with
  | nil =>
      cases succeeds
      exact isScope.congr fun value => by simp
  | cons id rest ih =>
      rw [joinAll] at succeeds
      cases found : table.get? id with
      | none => simp [found] at succeeds
      | some environment =>
          rw [found] at succeeds
          have next := isScope.joinOption (greatestBy_self rank (point environment))
          rw [← joins.joined] at next
          apply (ih next succeeds).congr
          intro value
          simp [found, or_assoc]

theorem exists_joinAll_iff {scope : Environment} {ids : List String} :
    (∃ result, joinAll table scope ids = .ok result) ↔
      ∀ id ∈ ids, table.contains id = true := by
  induction ids generalizing scope with
  | nil => simp [joinAll]
  | cons id rest ih =>
      rw [joinAll, List.forall_mem_cons, Dictionary.contains]
      cases table.get? id with
      | none => simp
      | some environment => simpa using ih

/-! ## Scopes -/

theorem exists_resolve_iff {environments : NameSet} :
    (∃ scope, table.resolve environments = .ok scope) ↔
      ∀ id, environments.contains id = true → table.contains id = true := by
  simp only [resolve, exists_joinAll_iff, Dictionary.mem_keys_iff]

theorem resolve_greatest (joins : Environment.JoinsBy rank point) {environments : NameSet}
    {scope : Environment} (succeeds : table.resolve environments = .ok scope) :
    GreatestBy rank (table.Offers (environments.contains · = true) point) (point scope) := by
  let start := ((table.get? alwaysInForce).map Environment.empty.join).getD .empty
  have isStart : GreatestBy rank (fun value => ∃ environment,
      table.get? alwaysInForce = some environment ∧ point environment = some value)
      (point start) := by
    cases found : table.get? alwaysInForce with
    | none => simp [start, found, joins.absent, GreatestBy]
    | some environment =>
        have same : point start = point environment := by
          simp only [start, found, Option.map_some, Option.getD_some, joins.joined, joins.absent]
          rfl
        rw [same]
        exact (greatestBy_self rank (point environment)).congr fun value => by simp
  apply (joinAll_greatest joins isStart succeeds).congr
  intro value
  simp only [Offers, Dictionary.mem_keys_iff, or_and_right, exists_or, exists_and_left,
    exists_eq_left]

end EnvironmentTable

end ScriptLint
