import ScriptLint.Report.FileReport

/-!
# The order of diagnostics

Diagnostics are ordered by line, column, rule, code and message; two that agree on
all five are tied, and a report keeps tied diagnostics in the order in which they
were found.  What a report lists is therefore determined by the tied diagnostics of
each kind, however the kinds were mixed when they were found.
-/

namespace ScriptLint

namespace Diagnostic

open Std

instance : TransCmp compare :=
  inferInstanceAs (TransCmp (compareLex (compareOn fun diagnostic : Diagnostic =>
      diagnostic.position.line) (compareLex (compareOn fun diagnostic =>
      diagnostic.position.column) (compareLex (compareOn ruleId) (compareLex (compareOn code)
      (compareOn message))))))

theorem compare_swap (first second : Diagnostic) :
    second.compare first = (first.compare second).swap :=
  OrientedCmp.eq_swap

theorem notAfter_trans (first second third : Diagnostic) (early : first.notAfter second = true)
    (late : second.notAfter third = true) : first.notAfter third = true :=
  TransCmp.isLE_trans early late

theorem notAfter_total (first second : Diagnostic) :
    (first.notAfter second || second.notAfter first) = true := by
  rw [notAfter, notAfter, compare_swap first second]
  cases first.compare second <;> rfl

def tied (first second : Diagnostic) : Bool := first.compare second = .eq

theorem tied_iff_notAfter {first second : Diagnostic} :
    first.tied second = true ↔ first.notAfter second = true ∧ second.notAfter first = true := by
  rw [tied, notAfter, notAfter, compare_swap first second]
  cases first.compare second <;> simp

theorem tied_self (diagnostic : Diagnostic) : diagnostic.tied diagnostic = true := by
  have same : diagnostic.compare diagnostic = .eq := ReflCmp.compare_self
  simp [tied, same]

theorem notAfter_of_tied {base first second : Diagnostic} (firstTied : base.tied first = true)
    (secondTied : base.tied second = true) : first.notAfter second = true :=
  notAfter_trans first base second (tied_iff_notAfter.mp firstTied).2
    (tied_iff_notAfter.mp secondTied).1

theorem ruleId_eq_of_tied {first second : Diagnostic} (same : first.tied second = true) :
    second.ruleId = first.ruleId := by
  simp only [tied, compare, decide_eq_true_eq, Ordering.then_eq_eq] at same
  exact (LawfulEqCmp.eq_of_compare same.2.2.1).symm

/-! ## Sorting -/

abbrev Sorted (diagnostics : List Diagnostic) : Prop :=
  diagnostics.Pairwise fun first second => first.notAfter second = true

theorem sorted_mergeSort (diagnostics : List Diagnostic) :
    Sorted (diagnostics.mergeSort notAfter) :=
  List.pairwise_mergeSort notAfter_trans notAfter_total diagnostics

theorem filter_tied_mergeSort (base : Diagnostic) (diagnostics : List Diagnostic) :
    (diagnostics.mergeSort notAfter).filter base.tied = diagnostics.filter base.tied := by
  have tiedSorted : Sorted (diagnostics.filter base.tied) := by
    rw [Sorted, List.pairwise_filter]
    exact List.pairwise_of_forall fun _ _ firstTied secondTied =>
      notAfter_of_tied firstTied secondTied
  have kept : (diagnostics.filter base.tied).Sublist (diagnostics.mergeSort notAfter) :=
    List.sublist_mergeSort notAfter_trans notAfter_total tiedSorted List.filter_sublist
  have keptTied := kept.filter base.tied
  rw [List.filter_filter] at keptTied
  simp only [Bool.and_self] at keptTied
  have sameLength := ((List.mergeSort_perm diagnostics notAfter).filter base.tied).length_eq
  exact (keptTied.eq_of_length sameLength.symm).symm

theorem eq_of_sorted_of_filter_tied_eq {first second : List Diagnostic}
    (firstSorted : Sorted first) (secondSorted : Sorted second)
    (agree : ∀ base : Diagnostic, first.filter base.tied = second.filter base.tied) :
    first = second := by
  have member_iff (diagnostic : Diagnostic) : diagnostic ∈ first ↔ diagnostic ∈ second := by
    have same := congrArg (diagnostic ∈ ·) (agree diagnostic)
    simpa [tied_self] using same
  induction first generalizing second with
  | nil =>
      cases second with
      | nil => rfl
      | cons head rest => simpa using member_iff head
  | cons head tail ih =>
      cases second with
      | nil => simpa using member_iff head
      | cons other rest =>
          obtain ⟨headFirst, tailSorted⟩ := List.pairwise_cons.mp firstSorted
          obtain ⟨otherFirst, restSorted⟩ := List.pairwise_cons.mp secondSorted
          -- Both heads are least, so they are tied, and tied diagnostics agree in order.
          have headTied : head.tied other = true := by
            rw [tied_iff_notAfter]
            constructor
            · rcases List.mem_cons.mp ((member_iff other).mpr List.mem_cons_self) with same | later
              · exact same ▸ (tied_iff_notAfter.mp (tied_self other)).1
              · exact headFirst other later
            · rcases List.mem_cons.mp ((member_iff head).mp List.mem_cons_self) with same | later
              · exact same ▸ (tied_iff_notAfter.mp (tied_self head)).1
              · exact otherFirst head later
          have sameHead : head = other := by
            have same := agree head
            rw [List.filter_cons_of_pos (tied_self head), List.filter_cons_of_pos headTied] at same
            exact (List.cons.inj same).1
          subst sameHead
          have tailAgree (base : Diagnostic) : tail.filter base.tied = rest.filter base.tied := by
            have same := agree base
            by_cases headIn : base.tied head = true <;> simpa [headIn] using same
          congr 1
          refine ih tailSorted restSorted tailAgree ?_
          intro diagnostic
          have same := congrArg (diagnostic ∈ ·) (tailAgree diagnostic)
          simpa [tied_self] using same

theorem mergeSort_eq_of_filter_tied_eq {first second : List Diagnostic}
    (agree : ∀ base : Diagnostic, first.filter base.tied = second.filter base.tied) :
    first.mergeSort notAfter = second.mergeSort notAfter := by
  apply eq_of_sorted_of_filter_tied_eq (sorted_mergeSort first) (sorted_mergeSort second)
  intro base
  rw [filter_tied_mergeSort, filter_tied_mergeSort, agree base]

theorem filter_mergeSort (kept : Diagnostic → Bool) (diagnostics : List Diagnostic) :
    (diagnostics.mergeSort notAfter).filter kept =
      (diagnostics.filter kept).mergeSort notAfter := by
  apply eq_of_sorted_of_filter_tied_eq ((sorted_mergeSort diagnostics).filter _)
    (sorted_mergeSort _)
  intro base
  have swap (listed : List Diagnostic) :
      (listed.filter kept).filter base.tied = (listed.filter base.tied).filter kept := by
    simp only [List.filter_filter, Bool.and_comm]
  rw [swap, filter_tied_mergeSort, filter_tied_mergeSort, swap]

theorem mergeSort_flatMap {α : Type} {items : List α} {listed : α → List Diagnostic}
    (ordered : items.Pairwise fun earlier later =>
      ∀ first ∈ listed earlier, ∀ second ∈ listed later, first.notAfter second = true) :
    (items.flatMap listed).mergeSort notAfter =
      items.flatMap fun item => (listed item).mergeSort notAfter := by
  apply eq_of_sorted_of_filter_tied_eq (sorted_mergeSort _)
  · refine List.pairwise_flatMap.mpr ⟨fun item _ => sorted_mergeSort _, ?_⟩
    refine ordered.imp fun before first inFirst second inSecond => ?_
    exact before first (List.mem_mergeSort.mp inFirst) second (List.mem_mergeSort.mp inSecond)
  · intro base
    rw [filter_tied_mergeSort, List.filter_flatMap, List.filter_flatMap]
    simp only [filter_tied_mergeSort]

/-! ## Diagnostics of one rule -/

def ofRule (id : String) (diagnostic : Diagnostic) : Bool := diagnostic.ruleId = id

theorem filter_tied_filter_ofRule (base : Diagnostic) (diagnostics : List Diagnostic) :
    (diagnostics.filter (ofRule base.ruleId)).filter base.tied = diagnostics.filter base.tied := by
  rw [List.filter_filter]
  apply List.filter_congr
  intro diagnostic _
  cases same : base.tied diagnostic with
  | false => rfl
  | true => simp [ofRule, ruleId_eq_of_tied same]

/-- Sorting forgets how the diagnostics of different rules were mixed. -/
theorem mergeSort_eq_of_filter_ofRule_eq {first second : List Diagnostic}
    (agree : ∀ id, first.filter (ofRule id) = second.filter (ofRule id)) :
    first.mergeSort notAfter = second.mergeSort notAfter := by
  apply mergeSort_eq_of_filter_tied_eq
  intro base
  rw [← filter_tied_filter_ofRule base first, agree, filter_tied_filter_ofRule]

/-! ## Reports -/

theorem sorted_ofDiagnostics (path : RepoPath) (diagnostics : List Diagnostic) :
    Sorted (FileReport.ofDiagnostics path diagnostics).diagnostics :=
  List.pairwise_map.mpr (sorted_mergeSort diagnostics)

theorem filter_ofDiagnostics (path : RepoPath) {kept : Diagnostic → Bool}
    (unstamped : ∀ diagnostic : Diagnostic, kept (diagnostic.stamped path) = kept diagnostic)
    (diagnostics : List Diagnostic) :
    (FileReport.ofDiagnostics path diagnostics).diagnostics.filter kept =
      (FileReport.ofDiagnostics path (diagnostics.filter kept)).diagnostics := by
  simp only [FileReport.ofDiagnostics]
  rw [List.filter_map, ← filter_mergeSort]
  congr 2
  funext diagnostic
  exact unstamped diagnostic

theorem filter_ofRule_ofDiagnostics (path : RepoPath) (id : String)
    (diagnostics : List Diagnostic) :
    (FileReport.ofDiagnostics path diagnostics).diagnostics.filter (ofRule id) =
      (FileReport.ofDiagnostics path (diagnostics.filter (ofRule id))).diagnostics :=
  filter_ofDiagnostics path (fun _ => rfl) diagnostics

theorem ofDiagnostics_eq_of_filter_ofRule_eq (path : RepoPath) {first second : List Diagnostic}
    (agree : ∀ id, first.filter (ofRule id) = second.filter (ofRule id)) :
    FileReport.ofDiagnostics path first = FileReport.ofDiagnostics path second := by
  simp only [FileReport.ofDiagnostics, mergeSort_eq_of_filter_ofRule_eq agree]

end Diagnostic

theorem FileReport.ofDiagnostics_toList (path : RepoPath) (diagnostic? : Option Diagnostic) :
    (FileReport.ofDiagnostics path diagnostic?.toList).diagnostics =
      (diagnostic?.map (·.stamped path)).toList := by
  cases diagnostic? <;> simp [FileReport.ofDiagnostics]

end ScriptLint
