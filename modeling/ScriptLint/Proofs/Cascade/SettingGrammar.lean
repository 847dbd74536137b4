import ScriptLint.Cascade.RuleSetting
import ScriptLint.Proofs.Value.Decoder

/-!
# The grammar of rule settings

A severity is spelled by a level or by a name, and a setting is written as a severity alone
or as a list of a severity and options.  `RuleSetting.resolve` accepts exactly what this
grammar writes.  What is refused is refused for the value that stands in the place of the
severity, alone as well as at the start of a list.
-/

namespace ScriptLint

namespace Severity

/-! ## Spellings of severities -/

def level : Severity → Int
  | .off => 0
  | .advisory => 1
  | .blocking => 2

def names : Severity → List String
  | .off => ["off"]
  | .advisory => ["warn", "warning", "advisory"]
  | .blocking => ["error", "blocking"]

theorem name_mem_names (severity : Severity) : severity.name ∈ severity.names := by
  cases severity <;> simp [name, names]

inductive Spells : Value → Severity → Prop
  | level (severity : Severity) : Spells (.int severity.level) severity
  | name {severity : Severity} {text : String} (known : text ∈ severity.names) :
      Spells (.string text) severity

/-- The values other than lists that stand for no severity, each with the reason given. -/
inductive Refused : Value → SettingError → Prop
  | null : Refused .null (.unsupported .null)
  | bool (flag : Bool) : Refused (.bool flag) (.unsupported (.bool flag))
  | object (fields : List (String × Value)) :
      Refused (.object fields) (.unsupported (.object fields))
  | float (number : Binary64) : Refused (.float number) (.badLevel (.float number))
  | int {number : Int} (outside : number < 0 ∨ 2 < number) :
      Refused (.int number) (.badLevel (.int number))
  | string {text : String} (unknown : ∀ severity : Severity, text ∉ severity.names) :
      Refused (.string text) (.unknownName text)

theorem ofLevel_of_two_lt {number : Nat} (outside : 2 < number) :
    ofLevel number = .error (.badLevel (.int number)) := by
  rw [ofLevel] <;> omega

theorem ofLevel_eq_ok_iff {number : Nat} {severity : Severity} :
    ofLevel number = .ok severity ↔ (number : Int) = severity.level := by
  by_cases outside : 2 < number
  · rw [ofLevel_of_two_lt outside]
    cases severity <;> simp [level] <;> omega
  · have inside : number = 0 ∨ number = 1 ∨ number = 2 := by omega
    rcases inside with rfl | rfl | rfl <;> cases severity <;> simp [ofLevel, level]

theorem ofName_of_mem_names {text : String} {severity : Severity}
    (known : text ∈ severity.names) : ofName text = .ok severity := by
  cases severity <;> simp only [names, List.mem_cons, List.not_mem_nil, or_false] at known
  case off => subst known; rfl
  case advisory => rcases known with rfl | rfl | rfl <;> rfl
  case blocking => rcases known with rfl | rfl <;> rfl

theorem ofName_of_unknown {text : String} (unknown : ∀ severity : Severity, text ∉ severity.names) :
    ofName text = .error (.unknownName text) := by
  have notOff : text ≠ "off" := fun same => unknown .off (List.mem_singleton.mpr same)
  have notAdvisory : text ∉ ["warn", "warning", "advisory"] := unknown .advisory
  have notBlocking : text ∉ ["error", "blocking"] := unknown .blocking
  rw [ofName, if_neg notOff, if_neg notAdvisory, if_neg notBlocking]

theorem ofName_eq_ok_iff {text : String} {severity : Severity} :
    ofName text = .ok severity ↔ text ∈ severity.names := by
  refine ⟨fun found => ?_, ofName_of_mem_names⟩
  by_cases known : ∃ other : Severity, text ∈ other.names
  · obtain ⟨other, isName⟩ := known
    rw [ofName_of_mem_names isName, Except.ok.injEq] at found
    exact found ▸ isName
  · rw [ofName_of_unknown (not_exists.mp known)] at found
    cases found

theorem ofScalar_eq_ok_iff {value : Value} {severity : Severity} :
    ofScalar value = .ok severity ↔ Spells value severity := by
  constructor
  · intro found
    cases value with
    | int number =>
        by_cases natural : 0 ≤ number
        · simp only [ofScalar, SettingShape.of, if_pos natural, ofLevel_eq_ok_iff,
            Int.toNat_of_nonneg natural] at found
          exact found ▸ .level severity
        · simp [ofScalar, SettingShape.of, natural] at found
    | string text => exact .name (ofName_eq_ok_iff.mp found)
    | array items => cases items <;> cases found
    | null | bool flag | float number | object fields => cases found
  · rintro (_ | known)
    · cases severity <;> rfl
    · exact ofName_eq_ok_iff.mpr known

theorem ofScalar_of_refused {value : Value} {cause : SettingError} (refused : Refused value cause) :
    ofScalar value = .error cause := by
  cases refused with
  | null | bool | object | float => rfl
  | @int number outside =>
      by_cases natural : 0 ≤ number
      · have tooHigh : 2 < number.toNat := by omega
        simp only [ofScalar, SettingShape.of, if_pos natural, ofLevel_of_two_lt tooHigh,
          Int.toNat_of_nonneg natural]
      · simp only [ofScalar, SettingShape.of, if_neg natural]
  | string unknown => exact ofName_of_unknown unknown

end Severity

namespace RuleSetting

open Severity

/-! ## Settings -/

/-- How settings are written: a severity alone, or a list of a severity and options. -/
inductive Written : Value → RuleSetting → Prop
  | scalar {value : Value} {severity : Severity} (spelled : Spells value severity) :
      Written value ⟨severity, none⟩
  | singleton {value : Value} {severity : Severity} (spelled : Spells value severity) :
      Written (.array [value]) ⟨severity, none⟩
  | tuple {value : Value} {severity : Severity} (spelled : Spells value severity)
      (option : Value) (rest : List Value) :
      Written (.array (value :: option :: rest)) ⟨severity, some (option :: rest)⟩

theorem resolve_cons (value : Value) (options : List Value) :
    resolve (.array (value :: options)) =
      (ofScalar value).map fun severity => of severity options :=
  rfl

theorem resolve_of_items?_eq_none {value : Value} (scalar : value.items? = none) :
    resolve value = (ofScalar value).map fun severity => of severity [] := by
  cases value with
  | array items => cases scalar
  | int number =>
      by_cases natural : 0 ≤ number
      · simp only [resolve, ofScalar, SettingShape.of, if_pos natural]
      · simp only [resolve, ofScalar, SettingShape.of, if_neg natural]
        rfl
  | null | bool | float | string | object => rfl

theorem items?_of_spells {value : Value} {severity : Severity} (spelled : Spells value severity) :
    value.items? = none := by
  cases spelled <;> rfl

theorem resolve_eq_ok_iff {value : Value} {setting : RuleSetting} :
    resolve value = .ok setting ↔ Written value setting := by
  constructor
  · intro resolved
    cases listed : value.items? with
    | none =>
        rw [resolve_of_items?_eq_none listed, map_eq_ok_iff] at resolved
        obtain ⟨severity, found, rfl⟩ := resolved
        exact .scalar (ofScalar_eq_ok_iff.mp found)
    | some items =>
        cases value <;> cases listed
        cases items with
        | nil => cases resolved
        | cons first options =>
            rw [resolve_cons, map_eq_ok_iff] at resolved
            obtain ⟨severity, found, rfl⟩ := resolved
            have spelled := ofScalar_eq_ok_iff.mp found
            cases options with
            | nil => exact .singleton spelled
            | cons option rest => exact .tuple spelled option rest
  · intro written
    cases written with
    | scalar spelled =>
        rw [resolve_of_items?_eq_none (items?_of_spells spelled), ofScalar_eq_ok_iff.mpr spelled]
        rfl
    | singleton spelled =>
        rw [resolve_cons, ofScalar_eq_ok_iff.mpr spelled]
        rfl
    | tuple spelled option rest =>
        rw [resolve_cons, ofScalar_eq_ok_iff.mpr spelled]
        rfl

theorem resolve_singleton {value : Value} (scalar : value.items? = none) :
    resolve (.array [value]) = resolve value := by
  rw [resolve_cons, resolve_of_items?_eq_none scalar]

theorem options_ne_nil_of_written {value : Value} {setting : RuleSetting}
    (written : Written value setting) : setting.options ≠ some [] := by
  cases written <;> simp

theorem written_of_options (severity : Severity) {options : List Value} (present : options ≠ []) :
    Written (.array (.string severity.name :: options)) ⟨severity, some options⟩ := by
  cases options with
  | nil => exact absurd rfl present
  | cons option rest => exact .tuple (.name severity.name_mem_names) option rest

theorem resolve_of_refused {value : Value} {cause : SettingError} (refused : Refused value cause) :
    resolve value = .error cause := by
  have scalar : value.items? = none := by cases refused <;> rfl
  rw [resolve_of_items?_eq_none scalar, ofScalar_of_refused refused]
  rfl

theorem resolve_cons_of_refused {value : Value} {cause : SettingError}
    (refused : Refused value cause) (options : List Value) :
    resolve (.array (value :: options)) = .error cause := by
  rw [resolve_cons, ofScalar_of_refused refused]
  rfl

theorem resolve_nested (items options : List Value) :
    resolve (.array (.array items :: options)) =
      .error (if items.isEmpty then .empty else .nestedTuple) := by
  cases items <;> rfl

/--
A setting is accepted just if it is written by the grammar, and what is written determines the
severity and the options.  So a scalar may be put into a list by itself, options are absent
and never empty, and a setting with options is what its severity's name and its options
write.  Every other value in the place of the severity is refused, alone and at the start of
a list, and so are a list in that place and the empty list.
-/
theorem resolve_accepts_exactly_written :
    (∀ value setting, resolve value = .ok setting ↔ Written value setting) ∧
      (∀ value, value.items? = none → resolve (.array [value]) = resolve value) ∧
      (∀ value setting, resolve value = .ok setting → setting.options ≠ some []) ∧
      (∀ setting options, setting.options = some options → options ≠ [] →
        resolve (.array (.string setting.severity.name :: options)) = .ok setting) ∧
      (∀ value cause, Refused value cause →
        resolve value = .error cause ∧
          ∀ options, resolve (.array (value :: options)) = .error cause) ∧
      (∀ items options, resolve (.array (.array items :: options)) =
        .error (if items.isEmpty then .empty else .nestedTuple)) ∧
      resolve (.array []) = .error .empty := by
  refine ⟨fun _ _ => resolve_eq_ok_iff, fun _ => resolve_singleton,
    fun _ _ resolved => options_ne_nil_of_written (resolve_eq_ok_iff.mp resolved), ?_, ?_,
    resolve_nested, rfl⟩
  · rintro ⟨severity, _⟩ options rfl present
    exact resolve_eq_ok_iff.mpr (written_of_options severity present)
  · intro value cause refused
    exact ⟨resolve_of_refused refused, resolve_cons_of_refused refused⟩

/-- A name beside an option, a level in a list by itself, and a fraction in place of a level. -/
theorem resolve_warning_with_option :
    let option : Value := .object [("avoidEscape", .bool true)]
    let fraction : Value := .float ⟨0x4000000000000000⟩
    resolve (.array [.string "warning", .string "single", option]) =
        .ok ⟨.advisory, some [.string "single", option]⟩ ∧
      resolve (.array [.int 2]) = resolve (.int 2) ∧
      resolve (.array [.string "advisory", .string "single", option]) =
        .ok ⟨.advisory, some [.string "single", option]⟩ ∧
      resolve (.array [fraction, option]) = .error (.badLevel fraction) := by
  intro option fraction
  obtain ⟨accepted, singleton, -, recovered, refused, -, -⟩ := resolve_accepts_exactly_written
  refine ⟨(accepted _ _).mpr (.tuple (.name (by decide)) _ _), singleton (.int 2) rfl,
    recovered ⟨.advisory, _⟩ _ rfl (List.cons_ne_nil _ _), ?_⟩
  exact (refused fraction _ (.float _)).2 [option]

end RuleSetting

end ScriptLint
