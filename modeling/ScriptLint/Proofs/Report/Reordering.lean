import Mathlib.Data.List.Perm.Basic
import ScriptLint.Proofs.Report.Order

/-!
# Reports on reordered findings

A report lists all findings in order and keeps those that are tied as they came.  Tied
findings agree on all that a fingerprint looks at, so findings that come in another
order give the same status and the same counts, and the same lines but for
severities and spans, which may change places among tied findings.
-/

namespace ScriptLint

/-! ## Sums over reordered diagnostics -/

instance : RightCommutative Status.worse :=
  ⟨fun first second third => by cases first <;> cases second <;> cases third <;> rfl⟩

instance : RightCommutative SeverityCounts.add :=
  ⟨fun first second third => by simp only [SeverityCounts.add, Nat.add_right_comm]⟩

section Sums

variable {first second : List Diagnostic}

theorem Status.ofDiagnostics_eq_of_perm (same : first.Perm second) :
    ofDiagnostics first = ofDiagnostics second :=
  (same.map _).foldl_eq _

theorem SeverityCounts.ofDiagnostics_eq_of_perm (same : first.Perm second) :
    ofDiagnostics first = ofDiagnostics second :=
  (same.map _).foldl_eq _

end Sums

namespace Diagnostic

/-! ## What the order looks at -/

def bare (diagnostic : Diagnostic) : Diagnostic :=
  { diagnostic with
    severity := .off
    position := { diagnostic.position with span := .zero }
    fingerprint := none }

theorem bare_eq_of_tied {first second : Diagnostic} (same : first.tied second = true) :
    first.bare = second.bare := by
  simp only [tied, compare, decide_eq_true_eq, Ordering.then_eq_eq] at same
  obtain ⟨line, column, ruleId, code, message⟩ := same
  simp only [bare, Diagnostic.mk.injEq, Position.mk.injEq, and_true, true_and]
  exact ⟨Std.LawfulEqCmp.eq_of_compare ruleId, Std.LawfulEqCmp.eq_of_compare code,
    Std.LawfulEqCmp.eq_of_compare message, Std.LawfulEqCmp.eq_of_compare line,
    Std.LawfulEqCmp.eq_of_compare column⟩

theorem map_bare_mergeSort_eq_of_perm {first second : List Diagnostic}
    (same : first.Perm second) :
    (first.mergeSort notAfter).map bare = (second.mergeSort notAfter).map bare := by
  have permuted : (first.mergeSort notAfter).Perm (second.mergeSort notAfter) :=
    (List.mergeSort_perm first notAfter).trans
      (same.trans (List.mergeSort_perm second notAfter).symm)
  have sorted (diagnostics : List Diagnostic) :
      Sorted ((diagnostics.mergeSort notAfter).map bare) :=
    List.pairwise_map.mpr (sorted_mergeSort diagnostics)
  refine List.Perm.eq_of_pairwise ?_ (sorted first) (sorted second) (permuted.map bare)
  intro early late inFirst inSecond before after
  obtain ⟨diagnostic, -, rfl⟩ := List.mem_map.mp inFirst
  obtain ⟨other, -, rfl⟩ := List.mem_map.mp inSecond
  exact bare_eq_of_tied (tied_iff_notAfter.mpr ⟨before, after⟩)

/-! ## What a report says of a diagnostic beside its severity and its span -/

def identity (diagnostic : Diagnostic) : Nat × Nat × String × String × String × Option String :=
  (diagnostic.position.line, diagnostic.position.column, diagnostic.ruleId, diagnostic.code,
    diagnostic.message, diagnostic.fingerprint)

theorem identity_stamped_bare (path : RepoPath) (diagnostic : Diagnostic) :
    (diagnostic.bare.stamped path).identity = (diagnostic.stamped path).identity := rfl

end Diagnostic

/-! ## Reports -/

namespace FileReport

open Diagnostic

theorem perm_ofDiagnostics (path : RepoPath) (diagnostics : List Diagnostic) :
    (ofDiagnostics path diagnostics).diagnostics.Perm (diagnostics.map (·.stamped path)) :=
  (List.mergeSort_perm diagnostics notAfter).map _

theorem filter_tied_ofDiagnostics (path : RepoPath) (base : Diagnostic)
    (diagnostics : List Diagnostic) :
    (ofDiagnostics path diagnostics).diagnostics.filter base.tied =
      (diagnostics.map (·.stamped path)).filter base.tied := by
  have stamped : base.tied ∘ (·.stamped path) = base.tied := rfl
  rw [ofDiagnostics, List.filter_map, List.filter_map, stamped, filter_tied_mergeSort]

theorem map_identity_ofDiagnostics (path : RepoPath) (diagnostics : List Diagnostic) :
    (ofDiagnostics path diagnostics).diagnostics.map identity =
      ((diagnostics.mergeSort notAfter).map bare).map fun diagnostic =>
        (diagnostic.stamped path).identity := by
  rw [ofDiagnostics, List.map_map, List.map_map]
  exact List.map_congr_left fun diagnostic _ => (identity_stamped_bare path diagnostic).symm

/--
A report lists the findings, each with its fingerprint, in order, and tied ones as they
came.  Of the same findings in another order it gives the same status and the same counts and
says the same but for severities and spans, which stay among findings that agree on
everything else.
-/
theorem ofDiagnostics_sorts_stably (path : RepoPath) (diagnostics : List Diagnostic) :
    let report := ofDiagnostics path diagnostics
    let stamped := diagnostics.map fun diagnostic =>
      { diagnostic with fingerprint := some (Fingerprint.of path.text diagnostic) }
    report.diagnostics.Perm stamped ∧ Sorted report.diagnostics ∧
      (∀ base : Diagnostic,
        report.diagnostics.filter base.tied = stamped.filter base.tied) ∧
      ∀ reordered : List Diagnostic, reordered.Perm diagnostics →
        let other := ofDiagnostics path reordered
        other.path = report.path ∧ other.status = report.status ∧
          other.counts = report.counts ∧
          other.diagnostics.map identity = report.diagnostics.map identity ∧
          ∀ same, (other.diagnostics.filter (·.identity = same)).Perm
            (report.diagnostics.filter (·.identity = same)) := by
  intro report stamped
  refine ⟨perm_ofDiagnostics path diagnostics, sorted_ofDiagnostics path diagnostics,
    fun base => filter_tied_ofDiagnostics path base diagnostics, ?_⟩
  intro reordered permuted other
  have listed : other.diagnostics.Perm report.diagnostics :=
    (perm_ofDiagnostics path reordered).trans
      ((permuted.map _).trans (perm_ofDiagnostics path diagnostics).symm)
  refine ⟨rfl, Status.ofDiagnostics_eq_of_perm listed,
    SeverityCounts.ofDiagnostics_eq_of_perm listed, ?_, fun same => listed.filter _⟩
  rw [map_identity_ofDiagnostics, map_identity_ofDiagnostics,
    map_bare_mergeSort_eq_of_perm permuted]

/-- Two findings that are tied change places, and with them their severities and spans. -/
theorem ofDiagnostics_of_tied_findings :
    let advisory : Diagnostic :=
      ⟨"no-var", "var_declaration", .advisory, "Unexpected var.", ⟨2, 1, ⟨1000, 1003⟩⟩, none⟩
    let blocking : Diagnostic :=
      { advisory with severity := .blocking, position := ⟨2, 1, ⟨1000, 1009⟩⟩ }
    let report := ofDiagnostics ⟨"a.js"⟩ [advisory, blocking]
    let other := ofDiagnostics ⟨"a.js"⟩ [blocking, advisory]
    [blocking, advisory].Perm [advisory, blocking] ∧
      report.diagnostics.filter advisory.tied =
        [advisory.stamped ⟨"a.js"⟩, blocking.stamped ⟨"a.js"⟩] ∧
      other.diagnostics.filter advisory.tied =
        [blocking.stamped ⟨"a.js"⟩, advisory.stamped ⟨"a.js"⟩] ∧
      other.status = report.status ∧ other.counts = report.counts ∧
      other.diagnostics.map identity = report.diagnostics.map identity := by
  intro advisory blocking report other
  obtain ⟨-, -, inOrder, anyOrder⟩ := ofDiagnostics_sorts_stably ⟨"a.js"⟩ [advisory, blocking]
  obtain ⟨-, -, otherInOrder, -⟩ := ofDiagnostics_sorts_stably ⟨"a.js"⟩ [blocking, advisory]
  have permuted : [blocking, advisory].Perm [advisory, blocking] := .swap advisory blocking []
  obtain ⟨-, status, counts, identities, -⟩ := anyOrder [blocking, advisory] permuted
  have tied := tied_self advisory
  refine ⟨permuted, (inOrder advisory).trans ?_, (otherInOrder advisory).trans ?_, status, counts,
    identities⟩ <;>
  exact List.filter_eq_self.mpr
    (List.forall_mem_cons.mpr ⟨tied, List.forall_mem_singleton.mpr tied⟩)

end FileReport

end ScriptLint
