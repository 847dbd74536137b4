import ScriptLint.Proofs.Dictionary.Lookup
import ScriptLint.Value.Basic

/-!
# Canonical values

Bringing a value into finite and canonical form gives a value that has this form:
doing it again changes nothing.
-/

namespace ScriptLint.Value

/-- A value whose numbers are finite and whose fields are in order, at every depth. -/
structure IsSettled (value : Value) : Prop where
  finite : value.finite = value
  canonical : value.canonical = value

theorem isSettled_array {items : List Value} (each : ∀ item ∈ items, item.IsSettled) :
    (Value.array items).IsSettled := by
  have kept : finiteItems items = items ∧ canonicalItems items = items := by
    induction items with
    | nil => exact ⟨rfl, rfl⟩
    | cons item items ih =>
        obtain ⟨first, others⟩ := List.forall_mem_cons.mp each
        obtain ⟨finite, canonical⟩ := ih others
        rw [finiteItems, canonicalItems, finite, canonical, first.finite, first.canonical]
        exact ⟨rfl, rfl⟩
  exact ⟨by rw [Value.finite, kept.1], by rw [Value.canonical, kept.2]⟩

theorem isSettled_object {fields : Dictionary Value}
    (each : ∀ field ∈ fields.entries, field.2.IsSettled) :
    (Value.object fields.entries).IsSettled := by
  have kept : finiteFields fields.entries = fields.entries ∧
      canonicalFields fields.entries = fields.entries := by
    generalize fields.entries = entries at each
    induction entries with
    | nil => exact ⟨rfl, rfl⟩
    | cons entry entries ih =>
        obtain ⟨first, others⟩ := List.forall_mem_cons.mp each
        obtain ⟨finite, canonical⟩ := ih others
        rw [finiteFields, canonicalFields, finite, canonical, first.finite, first.canonical]
        exact ⟨rfl, rfl⟩
  refine ⟨by rw [Value.finite, kept.1], ?_⟩
  rw [Value.canonical, kept.2, Dictionary.ofList_entries]

mutual

theorem isSettled_finite_canonical : (value : Value) → value.finite.canonical.IsSettled
  | .null => ⟨rfl, rfl⟩
  | .bool _ => ⟨rfl, rfl⟩
  | .int _ => ⟨rfl, rfl⟩
  | .float number => by
      rw [Value.finite]
      split
      · rename_i isFinite
        exact ⟨by simp [Value.canonical, Value.finite, isFinite], rfl⟩
      · exact ⟨rfl, rfl⟩
  | .string _ => ⟨rfl, rfl⟩
  | .array items => by
      rw [Value.finite, Value.canonical]
      exact isSettled_array (isSettled_canonicalItems items)
  | .object fields => by
      rw [Value.finite, Value.canonical]
      refine isSettled_object fun field member => ?_
      have found := Dictionary.get?_eq_some_iff.mpr member
      exact isSettled_canonicalFields fields field (Dictionary.mem_of_get?_ofList found)

theorem isSettled_canonicalItems : (items : List Value) →
    ∀ item ∈ canonicalItems (finiteItems items), item.IsSettled
  | [] => by simp [finiteItems, canonicalItems]
  | item :: items => by
      rw [finiteItems, canonicalItems]
      exact List.forall_mem_cons.mpr
        ⟨isSettled_finite_canonical item, isSettled_canonicalItems items⟩

theorem isSettled_canonicalFields : (fields : List (String × Value)) →
    ∀ field ∈ canonicalFields (finiteFields fields), field.2.IsSettled
  | [] => by simp [finiteFields, canonicalFields]
  | (name, value) :: fields => by
      rw [finiteFields, canonicalFields]
      exact List.forall_mem_cons.mpr
        ⟨isSettled_finite_canonical value, isSettled_canonicalFields fields⟩

end

end ScriptLint.Value
