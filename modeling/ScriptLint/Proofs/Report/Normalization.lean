import ScriptLint.Report.CheckReport
import ScriptLint.Report.Golden

/-!
# What normalization hides

Normalization replaces times at every depth and the version of the tool in a report.  Each
of the two changes nothing when it is made again, and it does not matter which one comes
first, so a normalized value is its own normal form.  In a report only the description of
the run has times, and the encoding loses nothing: two reports have one normal form just
if they differ at most in the version of the tool and in the times of the run.
-/

namespace ScriptLint

namespace Golden

/-! ## Times -/

mutual

theorem withoutTimes_withoutTimes : (value : Value) →
    withoutTimes (withoutTimes value) = withoutTimes value
  | .null => rfl
  | .bool _ => rfl
  | .int _ => rfl
  | .float _ => rfl
  | .string _ => rfl
  | .array items => by
      rw [withoutTimes, withoutTimes, withoutTimesItems_withoutTimesItems items]
  | .object fields => by
      rw [withoutTimes, withoutTimes, withoutTimesFields_withoutTimesFields fields]

theorem withoutTimesItems_withoutTimesItems : (items : List Value) →
    withoutTimesItems (withoutTimesItems items) = withoutTimesItems items
  | [] => rfl
  | item :: rest => by
      rw [withoutTimesItems, withoutTimesItems, withoutTimes_withoutTimes item,
        withoutTimesItems_withoutTimesItems rest]

theorem withoutTimesFields_withoutTimesFields : (fields : List (String × Value)) →
    withoutTimesFields (withoutTimesFields fields) = withoutTimesFields fields
  | [] => rfl
  | (name, value) :: rest => by
      rw [withoutTimesFields, withoutTimesFields, withoutTimesFields_withoutTimesFields rest]
      cases runPlaceholder? name with
      | none => rw [Option.getD_none, Option.getD_none, withoutTimes_withoutTimes value]
      | some placeholder => rfl

end

theorem withoutTimesFields_eq_map (fields : List (String × Value)) :
    withoutTimesFields fields = fields.map fun field =>
      (field.1, (runPlaceholder? field.1).getD (withoutTimes field.2)) := by
  induction fields with
  | nil => rfl
  | cons field rest ih => rw [withoutTimesFields, ih, List.map_cons]

/-! ## Updates of fields -/

section Updates

variable (name : String) (update : Value → Value)

theorem updateField_updateField (again : ∀ value, update (update value) = update value)
    (fields : List (String × Value)) :
    updateField name update (updateField name update fields) = updateField name update fields := by
  rw [updateField, updateField, List.map_map]
  apply List.map_congr_left
  rintro ⟨other, value⟩ -
  by_cases isName : other = name <;> simp [isName, again]

theorem withoutTimesFields_updateField (plain : runPlaceholder? name = none)
    (commutes : ∀ value, withoutTimes (update value) = update (withoutTimes value))
    (fields : List (String × Value)) :
    withoutTimesFields (updateField name update fields) =
      updateField name update (withoutTimesFields fields) := by
  rw [withoutTimesFields_eq_map, withoutTimesFields_eq_map, updateField, updateField,
    List.map_map, List.map_map]
  apply List.map_congr_left
  rintro ⟨other, value⟩ -
  by_cases isName : other = name
  · subst isName
    simp [plain, commutes]
  · simp [isName]

theorem isReport_map (change : String × Value → Value) (fields : List (String × Value)) :
    isReport (fields.map fun field => (field.1, change field)) = isReport fields := by
  have sameNames (name : String) :
      (Value.fieldIn? name (fields.map fun field => (field.1, change field))).isSome =
        (Value.fieldIn? name fields).isSome := by
    induction fields with
    | nil => rfl
    | cons field rest ih =>
        by_cases isName : field.1 = name <;> simp [Value.fieldIn?, isName, ih]
  simp only [isReport, sameNames]

theorem isReport_updateField (fields : List (String × Value)) :
    isReport (updateField name update fields) = isReport fields := by
  have keepsNames : updateField name update fields = fields.map fun field =>
      (field.1, if field.1 = name then update field.2 else field.2) := by
    apply List.map_congr_left
    intro field _
    split <;> rfl
  rw [keepsNames, isReport_map]

end Updates

/-! ## The version -/

theorem withoutToolVersion_withoutToolVersion (value : Value) :
    withoutToolVersion (withoutToolVersion value) = withoutToolVersion value := by
  cases value with
  | object fields =>
      rw [withoutToolVersion, withoutToolVersion,
        updateField_updateField "version" (fun _ => versionPlaceholder) fun _ => rfl]
  | _ => rfl

theorem withoutTimes_withoutToolVersion (value : Value) :
    withoutTimes (withoutToolVersion value) = withoutToolVersion (withoutTimes value) := by
  cases value with
  | object fields =>
      rw [withoutToolVersion, withoutTimes, withoutTimes, withoutToolVersion,
        withoutTimesFields_updateField "version" (fun _ => versionPlaceholder) (by decide)
          fun _ => rfl]
  | _ => rfl

theorem withoutVersion_withoutVersion (value : Value) :
    withoutVersion (withoutVersion value) = withoutVersion value := by
  cases value with
  | object fields =>
      rw [withoutVersion]
      split
      · rename_i report
        rw [withoutVersion, isReport_updateField, if_pos report,
          updateField_updateField _ _ withoutToolVersion_withoutToolVersion]
      · rename_i other
        rw [withoutVersion, if_neg other]
  | _ => rfl

theorem withoutTimes_withoutVersion (value : Value) :
    withoutTimes (withoutVersion value) = withoutVersion (withoutTimes value) := by
  cases value with
  | object fields =>
      have sameReport : isReport (withoutTimesFields fields) = isReport fields := by
        rw [withoutTimesFields_eq_map]
        exact isReport_map
          (fun field => (runPlaceholder? field.1).getD (withoutTimes field.2)) fields
      rw [withoutVersion, withoutTimes, withoutVersion, sameReport]
      split
      · rw [withoutTimes,
          withoutTimesFields_updateField _ _ (by decide) withoutTimes_withoutToolVersion]
      · rw [withoutTimes]
  | _ => rfl

theorem normalized_normalized (value : Value) : normalized (normalized value) = normalized value :=
  calc withoutTimes (withoutVersion (withoutTimes (withoutVersion value)))
      = withoutTimes (withoutTimes (withoutVersion (withoutVersion value))) := by
        rw [← withoutTimes_withoutVersion (withoutVersion value)]
    _ = withoutTimes (withoutVersion value) := by
        rw [withoutTimes_withoutTimes, withoutVersion_withoutVersion]

/-! ## Values without times -/

/-- A value in which no field has the name of a time, at any depth. -/
def IsTimeless (value : Value) : Prop := withoutTimes value = value

theorem isTimeless_object {fields : List (String × Value)}
    (each : ∀ field ∈ fields, runPlaceholder? field.1 = none ∧ IsTimeless field.2) :
    IsTimeless (.object fields) := by
  have kept : withoutTimesFields fields = fields := by
    induction fields with
    | nil => rfl
    | cons field rest ih =>
        obtain ⟨⟨plain, timeless⟩, others⟩ := List.forall_mem_cons.mp each
        rw [withoutTimesFields, plain, Option.getD_none, timeless, ih others]
  rw [IsTimeless, withoutTimes, kept]

theorem withoutTimesItems_map {α : Type} {encode : α → Value}
    (each : ∀ item, IsTimeless (encode item)) (items : List α) :
    withoutTimesItems (items.map encode) = items.map encode := by
  induction items with
  | nil => rfl
  | cons item rest ih => rw [List.map_cons, withoutTimesItems, each item, ih]

end Golden

/-! ## Encodings -/

open Golden

theorem Severity.encode_injective : Function.Injective encode := by
  intro first second same
  cases first <;> cases second <;> simp_all [encode, name]

theorem Status.encode_injective : Function.Injective encode := by
  intro first second same
  cases first <;> cases second <;> simp_all [encode, name]

theorem Position.encode_injective : Function.Injective encode := by
  rintro ⟨line, column, start, stop⟩ ⟨otherLine, otherColumn, otherStart, otherStop⟩ same
  simpa [encode, Span.encode, Int.ofNat_inj] using same

theorem SeverityCounts.encode_injective : Function.Injective encode := by
  rintro ⟨advisory, blocking⟩ ⟨otherAdvisory, otherBlocking⟩ same
  simpa [encode, Int.ofNat_inj] using same

namespace Diagnostic

theorem encode_injective : Function.Injective encode := by
  rintro ⟨ruleId, code, severity, message, position, fingerprint⟩
    ⟨otherId, otherCode, otherSeverity, otherMessage, otherPosition, otherFingerprint⟩ same
  cases fingerprint with
  | none =>
      cases otherFingerprint with
      | none =>
          simpa [encode, Severity.encode_injective.eq_iff, Position.encode_injective.eq_iff]
            using same
      | some _ => simp [encode] at same
  | some _ =>
      cases otherFingerprint with
      | none => simp [encode] at same
      | some _ =>
          simpa [encode, Severity.encode_injective.eq_iff, Position.encode_injective.eq_iff]
            using same

theorem isTimeless_encode (diagnostic : Diagnostic) : IsTimeless diagnostic.encode := by
  apply isTimeless_object
  cases diagnostic.fingerprint <;>
    simp [runPlaceholder?, IsTimeless, withoutTimes, withoutTimesFields, Severity.encode,
      Position.encode, Span.encode]

end Diagnostic

namespace FileReport

theorem encode_injective : Function.Injective encode := by
  rintro ⟨path, status, counts, diagnostics⟩ ⟨otherPath, otherStatus, otherCounts, others⟩ same
  obtain ⟨path⟩ := path
  obtain ⟨otherPath⟩ := otherPath
  simpa [encode, RepoPath.encode, Status.encode_injective.eq_iff,
    SeverityCounts.encode_injective.eq_iff,
    List.map_inj_right fun _ _ same => Diagnostic.encode_injective same] using same

theorem isTimeless_encode (report : FileReport) : IsTimeless report.encode := by
  have diagnostics := withoutTimesItems_map Diagnostic.isTimeless_encode report.diagnostics
  apply isTimeless_object
  simp [runPlaceholder?, IsTimeless, withoutTimes, withoutTimesFields, RepoPath.encode,
    Status.encode, SeverityCounts.encode, diagnostics]

end FileReport

/-! ## Reports -/

namespace CheckReport

/-- Two reports are the same but for the version of the tool and the times of the run. -/
def AgreesBesidesRun (first second : CheckReport) : Prop :=
  { first with tool := { first.tool with version := second.tool.version }, run := second.run } =
    second

def runPlaceholders : Value :=
  .object [("started_at", timestampPlaceholder), ("finished_at", timestampPlaceholder),
    ("duration_ms", .int 0)]

theorem normalized_encode (report : CheckReport) :
    normalized report.encode =
      .object [("schema", .string report.schema),
        ("tool", .object [("name", .string report.tool.name), ("version", versionPlaceholder)]),
        ("run", runPlaceholders), ("status", report.status.encode),
        ("counts", report.counts.encode), ("layers", .array (report.layers.map .string)),
        ("files", .array (report.files.map FileReport.encode))] := by
  have isTimeless_string (text : String) : IsTimeless (.string text) := rfl
  have layers := withoutTimesItems_map isTimeless_string report.layers
  have files := withoutTimesItems_map FileReport.isTimeless_encode report.files
  simp [normalized, encode, withoutVersion, isReport, reportFields, Value.fieldIn?, updateField,
    Tool.encode, withoutToolVersion, RunTimes.encode, withoutTimes, withoutTimesFields,
    runPlaceholder?, runPlaceholders, versionPlaceholder, Status.encode, SeverityCounts.encode,
    layers, files]

/--
A normalized value stays as it is, and normalization hides exactly the version of the tool and
the times of the run: reports that differ in anything else have different normal forms.
-/
theorem normalized_hides_exactly_run :
    (∀ value, normalized (normalized value) = normalized value) ∧
      ∀ first second : CheckReport,
        normalized first.encode = normalized second.encode ↔ first.AgreesBesidesRun second := by
  refine ⟨normalized_normalized, ?_⟩
  rintro ⟨schema, ⟨name, version⟩, run, status, counts, layers, files⟩
    ⟨otherSchema, ⟨otherName, otherVersion⟩, otherRun, otherStatus, otherCounts, otherLayers,
      otherFiles⟩
  simp [normalized_encode, AgreesBesidesRun, Status.encode_injective.eq_iff,
    SeverityCounts.encode_injective.eq_iff,
    List.map_inj_right fun _ _ same => Value.string.inj same,
    List.map_inj_right fun _ _ same => FileReport.encode_injective same]

end CheckReport

end ScriptLint
