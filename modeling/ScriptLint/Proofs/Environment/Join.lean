import ScriptLint.Proofs.Environment.Scope

/-!
# Scopes as joins

The greatest of some values is unique, so a scope is determined by what is offered on each
point.  Hence neither the order nor the repetition of environments matters, the scope of a
union is the join of the scopes, more environments never grant less, and it makes no
difference to declare the environment that is always in force.  If there is no scope, the
least unknown name is at fault.
-/

namespace ScriptLint

/-! ## Comparing greatest values -/

section Greatest

variable {α : Type} {rank : α → Nat} {given others : α → Prop} {first second : Option α}

theorem GreatestBy.unique (injective : Function.Injective rank)
    (isFirst : GreatestBy rank given first) (isSecond : GreatestBy rank given second) :
    first = second := by
  cases first with
  | none =>
      cases second with
      | none => rfl
      | some two => exact absurd isSecond.1 (isFirst two)
  | some one =>
      cases second with
      | none => exact absurd isFirst.1 (isSecond one)
      | some two =>
          have oneBelow := isSecond.2 one isFirst.1
          have twoBelow := isFirst.2 two isSecond.1
          rw [injective (Nat.le_antisymm oneBelow twoBelow)]

def AtMost (rank : α → Nat) (lower upper : Option α) : Prop :=
  ∀ value, lower = some value → ∃ other, upper = some other ∧ rank value ≤ rank other

theorem GreatestBy.atMost (isFirst : GreatestBy rank given first)
    (isSecond : GreatestBy rank others second) (included : ∀ value, given value → others value) :
    AtMost rank first second := by
  rintro value rfl
  have isOther := included value isFirst.1
  cases second with
  | none => exact absurd isOther (isSecond value)
  | some greatest => exact ⟨greatest, rfl, isSecond.2 value isOther⟩

end Greatest

/-! ## Environments point by point -/

theorem AccessMode.rank_injective : Function.Injective rank := by
  intro first second same
  cases first <;> cases second <;> simp_all [rank]

theorem SyntaxVersion.year_injective : Function.Injective year := by
  rintro ⟨first⟩ ⟨second⟩ same
  exact congrArg mk same

theorem SourceType.rank_injective : Function.Injective rank := by
  intro first second same
  cases first <;> cases second <;> simp_all [rank]

namespace Environment

theorem eq_of_points {first second : Environment}
    (same : ∀ {α : Type} {rank : α → Nat} {point : Environment → Option α},
      JoinsBy rank point → Function.Injective rank → point first = point second) :
    first = second := by
  have modes (name : String) : first.modeOf? name = second.modeOf? name :=
    same (joinsBy_modeOf? name) AccessMode.rank_injective
  have versions := same joinsBy_syntaxVersion SyntaxVersion.year_injective
  have sourceTypes := same joinsBy_sourceType SourceType.rank_injective
  obtain ⟨globals, syntaxVersion, sourceType⟩ := first
  obtain ⟨otherGlobals, otherVersion, otherType⟩ := second
  rw [mk.injEq]
  exact ⟨Dictionary.ext_get? modes, versions, sourceTypes⟩

/-- On each point the greatest value of two environments, and none if neither has one. -/
structure IsMaximum (first second whole : Environment) : Prop where
  mode : ∀ name, GreatestBy AccessMode.rank
    (fun mode => first.modeOf? name = some mode ∨ second.modeOf? name = some mode)
    (whole.modeOf? name)
  syntaxVersion : GreatestBy SyntaxVersion.year
    (fun version => first.syntaxVersion = some version ∨ second.syntaxVersion = some version)
    whole.syntaxVersion
  sourceType : GreatestBy SourceType.rank
    (fun sourceType => first.sourceType = some sourceType ∨ second.sourceType = some sourceType)
    whole.sourceType

theorem JoinsBy.greatest_join {α : Type} {rank : α → Nat} {point : Environment → Option α}
    (joins : JoinsBy rank point) (first second : Environment) :
    GreatestBy rank (fun value => point first = some value ∨ point second = some value)
      (point (first.join second)) := by
  rw [joins.joined]
  exact (greatestBy_self rank (point first)).joinOption (greatestBy_self rank (point second))

theorem isMaximum_join (first second : Environment) :
    IsMaximum first second (first.join second) where
  mode name := (joinsBy_modeOf? name).greatest_join first second
  syntaxVersion := joinsBy_syntaxVersion.greatest_join first second
  sourceType := joinsBy_sourceType.greatest_join first second

/-- The second environment grants all that the first does, and implies no lower capability. -/
structure Within (lower upper : Environment) : Prop where
  mode : ∀ name, AtMost AccessMode.rank (lower.modeOf? name) (upper.modeOf? name)
  syntaxVersion : AtMost SyntaxVersion.year lower.syntaxVersion upper.syntaxVersion
  sourceType : AtMost SourceType.rank lower.sourceType upper.sourceType

end Environment

/-! ## Sets of names -/

namespace NameSet

theorem contains_union (first second : NameSet) (id : String) :
    (first.union second).contains id = true ↔
      first.contains id = true ∨ second.contains id = true := by
  rw [NameSet.union, Dictionary.contains_overlay, Bool.or_eq_true]

theorem least_of_find?_keys {names : NameSet} {isUnknown : String → Bool} {least : String}
    (found : names.keys.find? isUnknown = some least) :
    names.contains least = true ∧ isUnknown least = true ∧
      ∀ id, names.contains id = true → isUnknown id = true → least ≤ id := by
  have ordered : names.keys.Pairwise (· < ·) :=
    List.pairwise_map.mpr names.ordered
  refine ⟨Dictionary.mem_keys_iff.mp (List.mem_of_find?_eq_some found),
    List.find?_some found, ?_⟩
  obtain ⟨-, before, after, keys, allKnown⟩ := List.find?_eq_some_iff_append.mp found
  rw [keys, List.pairwise_append, List.pairwise_cons] at ordered
  intro id contained unknown
  rw [← Dictionary.mem_keys_iff, keys, List.mem_append, List.mem_cons] at contained
  rcases contained with isBefore | rfl | isAfter
  · exact absurd unknown (by simpa using allKnown id isBefore)
  · exact String.le_refl id
  · exact String.not_lt.mp (String.lt_asymm (ordered.2.1.1 id isAfter))

end NameSet

namespace EnvironmentTable

variable {table : EnvironmentTable}

/-! ## Order and repetition -/

theorem joinAll_of_same_members {ids others : List String} (same : ∀ id, id ∈ ids ↔ id ∈ others)
    {start scope : Environment} (joined : joinAll table start ids = .ok scope) :
    joinAll table start others = .ok scope := by
  have known := exists_joinAll_iff.mp ⟨scope, joined⟩
  obtain ⟨other, otherJoined⟩ : ∃ other, joinAll table start others = .ok other :=
    exists_joinAll_iff.mpr fun id member => known id ((same id).mpr member)
  rw [otherJoined, Except.ok.injEq]
  apply Environment.eq_of_points
  intro α rank point joins injective
  have isOther := joinAll_greatest joins (greatestBy_self rank (point start)) otherJoined
  have isScope := joinAll_greatest joins (greatestBy_self rank (point start)) joined
  apply isOther.unique injective
  simpa only [same] using isScope

/-- An environment that is declared, or the one that is always in force if there is one. -/
def InForce (table : EnvironmentTable) (environments : NameSet) (id : String) : Prop :=
  environments.contains id = true ∨ id = alwaysInForce ∧ table.contains id = true

theorem joinAll_eq_ok_iff_resolve {environments : NameSet} {ids : List String}
    (listed : ∀ id, id ∈ ids ↔ table.InForce environments id) (scope : Environment) :
    joinAll table .empty ids = .ok scope ↔ table.resolve environments = .ok scope := by
  have anyOrder {others : List String} (same : ∀ id, id ∈ others ↔ table.InForce environments id) :
      joinAll table .empty ids = .ok scope ↔ joinAll table .empty others = .ok scope :=
    ⟨joinAll_of_same_members fun id => (listed id).trans (same id).symm,
      joinAll_of_same_members fun id => (same id).trans (listed id).symm⟩
  rw [resolve]
  cases found : table.get? alwaysInForce with
  | none =>
      apply anyOrder
      intro id
      have absent : ¬ (id = alwaysInForce ∧ table.contains id = true) := by
        rintro ⟨rfl, contained⟩
        simp [Dictionary.contains, found] at contained
      rw [Dictionary.mem_keys_iff, InForce, or_iff_left absent]
  | some environment =>
      have first : joinAll table .empty (alwaysInForce :: environments.keys) =
          joinAll table (Environment.empty.join environment) environments.keys := by
        rw [joinAll, found]
      have listsBoth (id : String) :
          id ∈ alwaysInForce :: environments.keys ↔ table.InForce environments id := by
        have contained : id = alwaysInForce → table.contains id = true := by
          rintro rfl
          simp [Dictionary.contains, found]
        rw [List.mem_cons, Dictionary.mem_keys_iff, InForce, and_iff_left_of_imp contained, or_comm]
      rw [anyOrder listsBoth, first]
      rfl

/-! ## Unknown environments -/

theorem joinAll_eq_error_iff {start : Environment} {ids : List String}
    {unknown : UnknownEnvironment} :
    joinAll table start ids = .error unknown ↔
      ids.find? (fun id => !table.contains id) = some unknown.id := by
  induction ids generalizing start with
  | nil => simp [joinAll]
  | cons id rest ih =>
      rw [joinAll, List.find?_cons, Dictionary.contains]
      cases table.get? id with
      | none =>
          obtain ⟨name⟩ := unknown
          simp
      | some environment => simpa using ih

theorem resolve_eq_error_iff {environments : NameSet} {unknown : UnknownEnvironment} :
    table.resolve environments = .error unknown ↔
      environments.contains unknown.id = true ∧ table.contains unknown.id = false ∧
        ∀ id, environments.contains id = true → table.contains id = false → unknown.id ≤ id := by
  have least {error : UnknownEnvironment} (failed : table.resolve environments = .error error) :
      environments.contains error.id = true ∧ table.contains error.id = false ∧
        ∀ id, environments.contains id = true → table.contains id = false → error.id ≤ id := by
    simpa using NameSet.least_of_find?_keys (joinAll_eq_error_iff.mp failed)
  refine ⟨least, ?_⟩
  rintro ⟨declared, missing, isLeast⟩
  cases outcome : table.resolve environments with
  | ok scope =>
      have known := exists_resolve_iff.mp ⟨scope, outcome⟩ unknown.id declared
      simp [missing] at known
  | error other =>
      obtain ⟨otherDeclared, otherMissing, otherLeast⟩ := least outcome
      have same : other.id = unknown.id :=
        String.le_antisymm (otherLeast _ declared missing)
          (isLeast _ otherDeclared otherMissing)
      obtain ⟨id⟩ := unknown
      obtain ⟨otherId⟩ := other
      rw [show otherId = id from same]

/-! ## What a scope holds -/

structure GrantsGreatest (table : EnvironmentTable) (environments : NameSet)
    (scope : Environment) : Prop where
  mode : ∀ name, GreatestBy AccessMode.rank
    (table.Offers (environments.contains · = true) (Environment.modeOf? name))
    (scope.modeOf? name)
  syntaxVersion : GreatestBy SyntaxVersion.year
    (table.Offers (environments.contains · = true) Environment.syntaxVersion) scope.syntaxVersion
  sourceType : GreatestBy SourceType.rank
    (table.Offers (environments.contains · = true) Environment.sourceType) scope.sourceType

theorem grantsGreatest_of_resolve {environments : NameSet} {scope : Environment}
    (succeeds : table.resolve environments = .ok scope) :
    table.GrantsGreatest environments scope where
  mode name := resolve_greatest (Environment.joinsBy_modeOf? name) succeeds
  syntaxVersion := resolve_greatest Environment.joinsBy_syntaxVersion succeeds
  sourceType := resolve_greatest Environment.joinsBy_sourceType succeeds

/-! ## Unions -/

theorem resolve_union {first second : NameSet} {scope other : Environment}
    (isScope : table.resolve first = .ok scope) (isOther : table.resolve second = .ok other) :
    table.resolve (first.union second) = .ok (scope.join other) := by
  have knownFirst := exists_resolve_iff.mp ⟨scope, isScope⟩
  have knownSecond := exists_resolve_iff.mp ⟨other, isOther⟩
  obtain ⟨whole, isWhole⟩ : ∃ whole, table.resolve (first.union second) = .ok whole :=
    exists_resolve_iff.mpr fun id declared =>
      ((NameSet.contains_union first second id).mp declared).elim (knownFirst id) (knownSecond id)
  rw [isWhole, Except.ok.injEq]
  apply Environment.eq_of_points
  intro α rank point joins injective
  have greatest := (resolve_greatest joins isScope).joinOption (resolve_greatest joins isOther)
  rw [← joins.joined] at greatest
  apply (resolve_greatest joins isWhole).unique injective
  apply greatest.congr
  intro value
  simp only [Offers, NameSet.contains_union]
  constructor
  · rintro (⟨id, environment, inForce, offered⟩ | ⟨id, environment, inForce, offered⟩)
    · exact ⟨id, environment, inForce.imp_right .inl, offered⟩
    · exact ⟨id, environment, inForce.imp_right .inr, offered⟩
  · rintro ⟨id, environment, isAlways | isFirst | isSecond, offered⟩
    · exact .inl ⟨id, environment, .inl isAlways, offered⟩
    · exact .inl ⟨id, environment, .inr isFirst, offered⟩
    · exact .inr ⟨id, environment, .inr isSecond, offered⟩

theorem within_of_subset {first second : NameSet} {scope other : Environment}
    (included : ∀ id, first.contains id = true → second.contains id = true)
    (isScope : table.resolve first = .ok scope) (isOther : table.resolve second = .ok other) :
    scope.Within other := by
  have onPoint {α : Type} {rank : α → Nat} {point : Environment → Option α}
      (joins : Environment.JoinsBy rank point) : AtMost rank (point scope) (point other) := by
    apply (resolve_greatest joins isScope).atMost (resolve_greatest joins isOther)
    rintro value ⟨id, environment, inForce, offered⟩
    exact ⟨id, environment, inForce.imp_right (included id), offered⟩
  exact ⟨fun name => onPoint (Environment.joinsBy_modeOf? name),
    onPoint Environment.joinsBy_syntaxVersion, onPoint Environment.joinsBy_sourceType⟩

theorem resolve_add_alwaysInForce {environments : NameSet}
    (present : table.contains alwaysInForce = true) :
    table.resolve (environments.add alwaysInForce) = table.resolve environments := by
  have declared (id : String) : (environments.add alwaysInForce).contains id = true ↔
      alwaysInForce = id ∨ environments.contains id = true := by
    rw [NameSet.add, Dictionary.contains_insert, Bool.or_eq_true, decide_eq_true_eq]
  cases outcome : table.resolve environments with
  | ok scope =>
      have listed (id : String) : id ∈ alwaysInForce :: environments.keys ↔
          table.InForce (environments.add alwaysInForce) id := by
        rw [InForce, declared, List.mem_cons, Dictionary.mem_keys_iff]
        constructor
        · rintro (rfl | isDeclared)
          · exact .inl (.inl rfl)
          · exact .inl (.inr isDeclared)
        · rintro ((rfl | isDeclared) | ⟨rfl, -⟩)
          · exact .inl rfl
          · exact .inr isDeclared
          · exact .inl rfl
      rw [← joinAll_eq_ok_iff_resolve listed]
      refine (joinAll_eq_ok_iff_resolve (fun id => ?_) scope).mpr outcome
      rw [InForce, List.mem_cons, Dictionary.mem_keys_iff, or_comm]
      refine or_congr_right (and_iff_left_of_imp ?_).symm
      rintro rfl
      exact present
  | error unknown =>
      obtain ⟨isDeclared, missing, isLeast⟩ := resolve_eq_error_iff.mp outcome
      refine resolve_eq_error_iff.mpr ⟨(declared _).mpr (.inr isDeclared), missing, ?_⟩
      intro id isListed otherMissing
      rcases (declared id).mp isListed with rfl | inEnvironments
      · simp [present] at otherMissing
      · exact isLeast id inEnvironments otherMissing

/--
There is a scope just if all declared environments are known, and otherwise the least unknown
name is reported.  A scope holds on each point the greatest value that an environment in
force offers.  The environments in force may be joined in any order and any number of
times, the scope of a union is the maximum of the scopes on each point, and with more
environments no global goes or becomes less permissive and no capability falls.  To declare
the environment that is always in force changes nothing where there is one.
-/
theorem resolve_joins_environments (table : EnvironmentTable) (first second : NameSet) :
    ((∃ scope, table.resolve first = .ok scope) ↔
        ∀ id, first.contains id = true → table.contains id = true) ∧
      (∀ unknown, table.resolve first = .error unknown ↔
        first.contains unknown.id = true ∧ table.contains unknown.id = false ∧
          ∀ id, first.contains id = true → table.contains id = false → unknown.id ≤ id) ∧
      (∀ scope, table.resolve first = .ok scope → table.GrantsGreatest first scope) ∧
      (∀ ids, (∀ id, id ∈ ids ↔ table.InForce first id) →
        ∀ scope, joinAll table .empty ids = .ok scope ↔ table.resolve first = .ok scope) ∧
      (∀ scope other, table.resolve first = .ok scope → table.resolve second = .ok other →
        table.resolve (first.union second) = .ok (scope.join other) ∧
          Environment.IsMaximum scope other (scope.join other) ∧
          ((∀ id, first.contains id = true → second.contains id = true) → scope.Within other)) ∧
      (table.contains alwaysInForce = true →
        table.resolve (first.add alwaysInForce) = table.resolve first) := by
  refine ⟨exists_resolve_iff, fun _ => resolve_eq_error_iff,
    fun _ => grantsGreatest_of_resolve, fun _ => joinAll_eq_ok_iff_resolve, ?_,
    resolve_add_alwaysInForce⟩
  intro scope other isScope isOther
  exact ⟨resolve_union isScope isOther, Environment.isMaximum_join scope other,
    fun included => within_of_subset included isScope isOther⟩

end EnvironmentTable

end ScriptLint
