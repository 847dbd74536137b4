import Mathlib.Data.Set.Function
import ScriptLint.Fingerprint
import ScriptLint.Proofs.Text.Digits

/-!
# What a fingerprint identifies

A fingerprint is the digest of six parts with bars between them.  Line and column are
numbers and the message comes last, but nothing keeps bars out of a path, the id of
a rule or a code, and a bar in them looks like one between them.  The digested text
determines the six parts once it is known how many bars are in these three, and
not without it: two different findings can have one text.
-/

namespace ScriptLint.Fingerprint

structure SameIdentity (path other : String) (first second : Diagnostic) : Prop where
  path : path = other
  ruleId : first.ruleId = second.ruleId
  code : first.code = second.code
  line : first.position.line = second.position.line
  column : first.position.column = second.position.column
  message : first.message = second.message

/-! ## Parts between bars -/

def bars (text : String) : Nat := text.toList.count '|'

/-- Path, id and code have as many bars as those of another finding. -/
structure SameBars (path other : String) (first second : Diagnostic) : Prop where
  path : bars path = bars other
  ruleId : bars first.ruleId = bars second.ruleId
  code : bars first.code = bars second.code

theorem append_bar_inj {first second rest others : List Char}
    (sameBars : first.count '|' = second.count '|')
    (same : first ++ '|' :: rest = second ++ '|' :: others) : first = second ∧ rest = others := by
  induction first generalizing second with
  | nil =>
      cases second with
      | nil => exact ⟨rfl, (List.cons.inj same).2⟩
      | cons character second =>
          obtain ⟨rfl, -⟩ := List.cons.inj same
          simp at sameBars
  | cons character first ih =>
      cases second with
      | nil =>
          obtain ⟨rfl, -⟩ := List.cons.inj same
          simp at sameBars
      | cons head second =>
          obtain ⟨rfl, sameTail⟩ := List.cons.inj same
          have tailBars : first.count '|' = second.count '|' := by
            simpa [List.count_cons] using sameBars
          obtain ⟨rfl, sameRest⟩ := ih tailBars sameTail
          exact ⟨rfl, sameRest⟩

theorem count_bar_decimalDigits (number : Nat) : (Text.decimalDigits number).count '|' = 0 := by
  rw [List.count_eq_zero]
  intro member
  exact absurd (Text.isDecimalDigit_of_mem_decimalDigits member) (by decide)

theorem toList_canonicalText (path : String) (diagnostic : Diagnostic) :
    (canonicalText path diagnostic).toList =
      path.toList ++ '|' :: (diagnostic.ruleId.toList ++ '|' :: (diagnostic.code.toList ++
        '|' :: (Text.decimalDigits diagnostic.position.line ++
          '|' :: (Text.decimalDigits diagnostic.position.column ++
            '|' :: diagnostic.message.toList)))) := by
  simp [canonicalText]

/-! ## Texts and findings -/

theorem SameIdentity.canonicalText_eq {path other : String} {first second : Diagnostic}
    (same : SameIdentity path other first second) :
    canonicalText path first = canonicalText other second := by
  simp only [canonicalText, same.path, same.ruleId, same.code, same.line, same.column,
    same.message]

theorem sameIdentity_of_canonicalText_eq {path other : String} {first second : Diagnostic}
    (sameText : canonicalText path first = canonicalText other second)
    (sameBars : SameBars path other first second) : SameIdentity path other first second := by
  have cut := congrArg String.toList sameText
  rw [toList_canonicalText, toList_canonicalText] at cut
  -- The bars are met from left to right; a number has none, and what is left is the message.
  have noBars (number another : Nat) : (Text.decimalDigits number).count '|' =
      (Text.decimalDigits another).count '|' := by
    rw [count_bar_decimalDigits, count_bar_decimalDigits]
  obtain ⟨samePath, cut⟩ := append_bar_inj sameBars.path cut
  obtain ⟨sameRule, cut⟩ := append_bar_inj sameBars.ruleId cut
  obtain ⟨sameCode, cut⟩ := append_bar_inj sameBars.code cut
  obtain ⟨sameLine, cut⟩ := append_bar_inj (noBars _ _) cut
  obtain ⟨sameColumn, sameMessage⟩ := append_bar_inj (noBars _ _) cut
  exact ⟨String.toList_inj.mp samePath, String.toList_inj.mp sameRule,
    String.toList_inj.mp sameCode, Text.decimalDigits_injective sameLine,
    Text.decimalDigits_injective sameColumn, String.toList_inj.mp sameMessage⟩

theorem SameIdentity.sameBars {path other : String} {first second : Diagnostic}
    (same : SameIdentity path other first second) : SameBars path other first second :=
  ⟨congrArg bars same.path, congrArg bars same.ruleId, congrArg bars same.code⟩

/--
Findings agree on the six parts exactly if they have one text with as many bars in path,
id and code; and as far as the digest tells the two texts apart, exactly if they have
one fingerprint with as many bars there.
-/
theorem sameIdentity_iff_text_and_bars (path other : String) (first second : Diagnostic) :
    (SameIdentity path other first second ↔
        canonicalText path first = canonicalText other second ∧
          SameBars path other first second) ∧
      (Set.InjOn Sha256.hexDigest {canonicalText path first, canonicalText other second} →
        (SameIdentity path other first second ↔
          of path first = of other second ∧ SameBars path other first second)) := by
  have byText : SameIdentity path other first second ↔
      canonicalText path first = canonicalText other second ∧
        SameBars path other first second :=
    ⟨fun same => ⟨same.canonicalText_eq, same.sameBars⟩,
      fun ⟨sameText, sameBars⟩ => sameIdentity_of_canonicalText_eq sameText sameBars⟩
  refine ⟨byText, fun injective => ?_⟩
  have byDigest : of path first = of other second ↔
      canonicalText path first = canonicalText other second := by
    rw [of, of]
    exact injective.eq_iff (by simp) (by simp)
  exact byText.trans (and_congr_left fun _ => byDigest.symm)

theorem sameIdentity_iff_of_two_messages :
    let first : Diagnostic := ⟨"no-undef", "undefined_identifier", .advisory, "m", .zero, none⟩
    let second : Diagnostic := { first with message := "n" }
    Set.InjOn Sha256.hexDigest {canonicalText "a.js" first, canonicalText "a.js" second} ∧
      ¬ SameIdentity "a.js" "a.js" first second ∧
      (SameIdentity "a.js" "a.js" first second ↔
        of "a.js" first = of "a.js" second ∧ SameBars "a.js" "a.js" first second) := by
  intro first second
  have different : of "a.js" first ≠ of "a.js" second := by decide +kernel
  have injective : Set.InjOn Sha256.hexDigest
      {canonicalText "a.js" first, canonicalText "a.js" second} :=
    Set.injOn_pair.mpr fun same => absurd same different
  have identity := (sameIdentity_iff_text_and_bars "a.js" "a.js" first second).2 injective
  exact ⟨injective, fun same => different (identity.mp same).1, identity⟩

/--
A name with bars in one file and a path with bars of another: both findings are such as
the rule on undeclared names reports, they differ in path and message, and they have one
fingerprint.
-/
theorem one_fingerprint_of_two_findings :
    let path := "a.js|no-undef|undefined_identifier|1|1|'x"
    let first : Diagnostic := ⟨"no-undef", "undefined_identifier", .advisory,
      "'x|no-undef|undefined_identifier|1|1|'y' is not defined.", ⟨1, 1, .zero⟩, none⟩
    let second : Diagnostic := ⟨"no-undef", "undefined_identifier", .advisory,
      "'y' is not defined.", ⟨1, 1, .zero⟩, none⟩
    canonicalText "a.js" first = canonicalText path second ∧
      of "a.js" first = of path second ∧ ¬ SameIdentity "a.js" path first second := by
  intro path first second
  have sameText : canonicalText "a.js" first = canonicalText path second := by decide +kernel
  exact ⟨sameText, congrArg Sha256.hexDigest sameText,
    fun same => absurd same.message (by decide)⟩

end ScriptLint.Fingerprint
