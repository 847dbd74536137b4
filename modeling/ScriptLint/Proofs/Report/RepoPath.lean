import Mathlib.Data.List.Forall2
import ScriptLint.RepoPath

/-!
# The normal form of paths

Texts that name one file in different ways are to give one path, since a fingerprint is
taken over the path.  A text is normal if it is not empty, has no backslash and does not
start with `./`.  `RepoPath.of` gives a normal text, keeps exactly the normal texts, and
overlooks how separators are written and which current segments stand at the start.
-/

namespace ScriptLint.RepoPath

/-! ## Segments at the start -/

theorem not_prefix_dropCurrentSegments (path : List Char) :
    ¬ ['.', '/'] <+: dropCurrentSegments path := by
  fun_induction dropCurrentSegments path with
  | case1 rest ih => exact ih
  | case2 path notCurrent =>
      rintro ⟨rest, rfl⟩
      exact notCurrent rest rfl

theorem dropCurrentSegments_of_settled {path : List Char} (settled : ¬ ['.', '/'] <+: path) :
    dropCurrentSegments path = path := by
  fun_cases dropCurrentSegments path with
  | case1 rest => exact absurd (List.prefix_append _ _) settled
  | case2 path notCurrent => rfl

theorem dropCurrentSegments_suffix (path : List Char) : dropCurrentSegments path <:+ path := by
  fun_induction dropCurrentSegments path with
  | case1 rest ih => exact ih.trans (List.suffix_append ['.', '/'] rest)
  | case2 path notCurrent => exact List.suffix_refl path

/--
The runs of a loop that drops the current segments at the start of a path as long as it
starts with one, with the number of rounds.
-/
inductive Strips : Nat → List Char → List Char → Prop
  | done {path : List Char} (settled : ¬ ['.', '/'] <+: path) : Strips 0 path path
  | round {rounds : Nat} {path last : List Char} (due : ['.', '/'] <+: path)
      (rest : Strips rounds (dropCurrentSegments path) last) : Strips (rounds + 1) path last

theorem exists_strips (path : List Char) :
    ∃ rounds ≤ 1, Strips rounds path (dropCurrentSegments path) := by
  have last : Strips 0 (dropCurrentSegments path) (dropCurrentSegments path) :=
    .done (not_prefix_dropCurrentSegments path)
  by_cases due : ['.', '/'] <+: path
  · exact ⟨1, Nat.le_refl 1, .round due last⟩
  · rw [dropCurrentSegments_of_settled due] at last ⊢
    exact ⟨0, Nat.zero_le 1, last⟩

theorem Strips.last_eq {rounds : Nat} {path last : List Char} (run : Strips rounds path last) :
    last = dropCurrentSegments path := by
  induction run with
  | done settled => exact (dropCurrentSegments_of_settled settled).symm
  | @round rounds path last due rest ih =>
      exact ih.trans (dropCurrentSegments_of_settled (not_prefix_dropCurrentSegments path))

/-! ## Separators -/

def IsSeparator (character : Char) : Prop := character = '/' ∨ character = '\\'

def SameButSeparators (first second : String) : Prop :=
  List.Forall₂ (fun one other => one = other ∨ IsSeparator one ∧ IsSeparator other)
    first.toList second.toList

theorem slash_ne_backslash (character : Char) : slash character ≠ '\\' := by
  rw [slash]
  split_ifs with isBackslash
  · decide
  · exact isBackslash

theorem slash_of_ne {character : Char} (other : character ≠ '\\') : slash character = character :=
  if_neg other

theorem slash_of_isSeparator {character : Char} (separates : IsSeparator character) :
    slash character = '/' := by
  rcases separates with rfl | rfl <;> rfl

theorem map_slash_eq {first second : String} (same : SameButSeparators first second) :
    first.toList.map slash = second.toList.map slash := by
  refine List.forall₂_eq_eq_eq ▸ List.forall₂_map_left_iff.mpr (List.forall₂_map_right_iff.mpr ?_)
  refine same.imp fun one other agree => ?_
  rcases agree with rfl | ⟨separates, otherSeparates⟩
  · rfl
  · rw [slash_of_isSeparator separates, slash_of_isSeparator otherSeparates]

/-! ## Normal texts -/

structure IsNormal (text : String) : Prop where
  nonempty : text ≠ ""
  noBackslash : '\\' ∉ text.toList
  notCurrent : ¬ "./".toList <+: text.toList

theorem isNormal_anonymous : IsNormal anonymous := ⟨by decide, by decide, by decide⟩

def stripped (text : String) : List Char := dropCurrentSegments (text.toList.map slash)

theorem text_of (text : String) :
    (of text).text = if stripped text = [] then anonymous else String.ofList (stripped text) := by
  rw [of, stripped]
  split
  · rename_i empty
    rw [if_pos empty]
  · rename_i nonempty
    rw [if_neg nonempty]

theorem eq_of_text_eq {first second : RepoPath} (same : first.text = second.text) :
    first = second := by
  obtain ⟨text⟩ := first
  obtain ⟨other⟩ := second
  exact congrArg RepoPath.mk same

theorem of_eq_of_stripped_eq {first second : String} (same : stripped first = stripped second) :
    of first = of second := by
  apply eq_of_text_eq
  rw [text_of, text_of, same]

theorem isNormal_ofList_stripped {text : String} (nonempty : stripped text ≠ []) :
    IsNormal (String.ofList (stripped text)) where
  nonempty empty := nonempty (String.ofList_eq_empty_iff.mp empty)
  noBackslash isIn := by
    rw [String.toList_ofList] at isIn
    obtain ⟨character, -, same⟩ :=
      List.mem_map.mp ((dropCurrentSegments_suffix _).subset isIn)
    exact slash_ne_backslash character same
  notCurrent isPrefix := by
    have listed : (String.ofList (stripped text)).toList = stripped text := String.toList_ofList
    rw [listed] at isPrefix
    exact not_prefix_dropCurrentSegments _ isPrefix

theorem isNormal_of (text : String) : IsNormal (of text).text := by
  rw [text_of]
  split_ifs with empty
  · exact isNormal_anonymous
  · exact isNormal_ofList_stripped empty

theorem stripped_of_isNormal {text : String} (normal : IsNormal text) :
    stripped text = text.toList := by
  have kept : text.toList.map slash = text.toList.map id :=
    List.map_congr_left fun character isIn =>
      slash_of_ne fun same => normal.noBackslash (same ▸ isIn)
  rw [stripped, kept, List.map_id, dropCurrentSegments_of_settled normal.notCurrent]

theorem text_of_eq_self_iff {text : String} : (of text).text = text ↔ IsNormal text := by
  constructor
  · intro same
    exact same ▸ isNormal_of text
  · intro normal
    have nonempty : stripped text ≠ [] := by
      rw [stripped_of_isNormal normal]
      exact fun empty => normal.nonempty (String.toList_eq_nil_iff.mp empty)
    rw [text_of, if_neg nonempty, stripped_of_isNormal normal, String.ofList_toList]

/-! ## Texts with one path -/

theorem of_eq_of_sameButSeparators {first second : String} (same : SameButSeparators first second) :
    of first = of second :=
  of_eq_of_stripped_eq (congrArg dropCurrentSegments (map_slash_eq same))

theorem of_append_current {segment : String} (current : segment = "./" ∨ segment = ".\\")
    (text : String) : of (segment ++ text) = of text := by
  apply of_eq_of_stripped_eq
  rw [stripped, String.toList_append]
  rcases current with rfl | rfl <;> rfl

theorem of_foldr_append {segments : List String}
    (current : ∀ segment ∈ segments, segment = "./" ∨ segment = ".\\") (text : String) :
    of (segments.foldr (· ++ ·) text) = of text := by
  induction segments with
  | nil => rfl
  | cons segment rest ih =>
      obtain ⟨isCurrent, others⟩ := List.forall_mem_cons.mp current
      rw [List.foldr_cons, of_append_current isCurrent, ih others]

/--
The loop over the segments at the start ends after at most one round, and what it leaves is
the path, or the anonymous path if nothing is left.  The path is a normal text and gives
itself, a text is kept just if it is normal, and neither the way separators are written nor
current segments put in front make another path.
-/
theorem of_gives_normal_form (text : String) :
    (∃ rounds last, rounds ≤ 1 ∧ Strips rounds (text.toList.map slash) last) ∧
      (∀ rounds last, Strips rounds (text.toList.map slash) last →
        (of text).text = if last = [] then anonymous else String.ofList last) ∧
      IsNormal (of text).text ∧ of (of text).text = of text ∧
      ((of text).text = text ↔ IsNormal text) ∧
      (∀ other, SameButSeparators text other → of other = of text) ∧
      ∀ segments : List String, (∀ segment ∈ segments, segment = "./" ∨ segment = ".\\") →
        of (segments.foldr (· ++ ·) text) = of text := by
  obtain ⟨rounds, few, run⟩ := exists_strips (text.toList.map slash)
  refine ⟨⟨rounds, _, few, run⟩, ?_, isNormal_of text, ?_, text_of_eq_self_iff,
    fun _ same => (of_eq_of_sameButSeparators same).symm,
    fun _ current => of_foldr_append current text⟩
  · intro rounds last run
    rw [run.last_eq]
    exact text_of text
  · exact eq_of_text_eq (text_of_eq_self_iff.mpr (isNormal_of text))

/-- Segments and separators written in both ways, and a path of nothing but segments. -/
theorem of_mixed_separators :
    of (["./", ".\\", "./"].foldr (· ++ ·) "src\\app.js") = of "src/app.js" ∧
      (of "src/app.js").text = "src/app.js" ∧ (of ".\\./").text = anonymous := by
  obtain ⟨-, -, -, -, kept, separators, -⟩ := of_gives_normal_form "src/app.js"
  obtain ⟨-, -, -, -, -, -, segments⟩ := of_gives_normal_form "src\\app.js"
  obtain ⟨-, result, -⟩ := of_gives_normal_form ".\\./"
  have same : SameButSeparators "src/app.js" "src\\app.js" := by
    simp [SameButSeparators, IsSeparator]
  have run : Strips 1 (".\\./".toList.map slash) [] := .round (by decide) (.done (by decide))
  have dropped := segments ["./", ".\\", "./"] (by simp)
  have respelled := separators "src\\app.js" same
  have nothing := result 1 [] run
  rw [if_pos rfl] at nothing
  exact ⟨dropped.trans respelled, kept.mpr ⟨by decide, by decide, by decide⟩, nothing⟩

end ScriptLint.RepoPath
