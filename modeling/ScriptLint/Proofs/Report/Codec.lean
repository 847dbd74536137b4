import ScriptLint.Proofs.Json.Reading
import ScriptLint.Proofs.Report.Timestamp
import ScriptLint.Proofs.Value.Record
import ScriptLint.Report.Text

/-!
# Reports read back from their text

A report that is decoded from any value is written as a JSON text, and what is read
from that text decodes to the same report.
-/

namespace ScriptLint

/-- A result that its encoded form decodes to, with numbers that JSON text keeps. -/
structure Decoder.Faithful {α : Type} (decode : Decoder α) (encode : α → Value) (result : α) :
    Prop where
  again : decode (encode result) = .ok result
  exact : (encode result).IsExact

namespace Decoder

theorem text_yields : Decoder.text.Yields (Faithful Decoder.text .string) :=
  fun _ text _ => ⟨rfl, .string text⟩

theorem natural_yields_faithful {limit : Nat} {name : String}
    (small : limit ≤ 0x10000000000000000) :
    (natural limit name).Yields (Faithful (natural limit name) fun number => .int number) := by
  intro value number decoded
  have fits : number < limit := natural_yields limit name value number decoded
  exact ⟨natural_int name fits, .int (by omega) (by omega)⟩

theorem natural32_yields : natural32.Yields (Faithful natural32 fun number => .int number) :=
  natural_yields_faithful (by decide)

theorem natural64_yields : natural64.Yields (Faithful natural64 fun number => .int number) :=
  natural_yields_faithful (by decide)

theorem size_yields : size.Yields (Faithful size fun number => .int number) :=
  natural_yields_faithful (by decide)

theorem Yields.faithful_list {α : Type} {decode : Decoder α} {encode : α → Value}
    (yields : decode.Yields (Faithful decode encode)) :
    (Decoder.list decode).Yields
      (Faithful (Decoder.list decode) fun results => .array (results.map encode)) := by
  intro value results decoded
  have each := yields.list value results decoded
  refine ⟨list_encoded fun result member => (each result member).again, ?_⟩
  simpa using fun result member => (each result member).exact

end Decoder

open Record (valuesOf)

theorem Severity.faithful (severity : Severity) :
    Decoder.Faithful decode encode severity := by
  cases severity <;> exact ⟨rfl, .string _⟩

theorem Status.faithful (status : Status) : Decoder.Faithful decode encode status := by
  cases status <;> exact ⟨rfl, .string _⟩

theorem Timestamp.decode_yields : decode.Yields fun moment =>
    moment.IsWritable ∧ Decoder.Faithful decode encode moment := by
  intro value moment decoded
  cases value with
  | string text =>
      rw [decode] at decoded
      split at decoded
      · rename_i read
        cases decoded
        have writable := isWritable_of_read? read
        refine ⟨writable, ?_, .string _⟩
        rw [encode, decode, read?_text writable]
      · cases decoded
  | _ => cases decoded

theorem Span.decode_yields : decode.Yields (Decoder.Faithful decode encode) := by
  refine Record.Yields.decode (.seq (.map (.required Decoder.size_yields) ?_)
    (.required Decoder.size_yields))
  intro start isStart stop isStop
  refine ⟨?_, by simp [encode, isStart.exact, isStop.exact]⟩
  simp only [encode]
  rw [decode, Record.decode_object_eq_ok_iff]
  simp [record, valuesOf, isStart.again, isStop.again]

theorem Position.decode_yields : decode.Yields (Decoder.Faithful decode encode) := by
  refine Record.Yields.decode (.seq (.seq (.map (.required Decoder.natural32_yields) ?_)
    (.required Decoder.natural32_yields)) (.required Span.decode_yields))
  intro line isLine column isColumn span isSpan
  refine ⟨?_, by simp [encode, isLine.exact, isColumn.exact, isSpan.exact]⟩
  simp only [encode]
  rw [decode, Record.decode_object_eq_ok_iff]
  simp [record, valuesOf, isLine.again, isColumn.again, isSpan.again]

theorem Diagnostic.decode_yields : decode.Yields (Decoder.Faithful decode encode) := by
  refine Record.Yields.decode (.seq (.seq (.seq (.seq (.seq
    (.map (.required Decoder.text_yields) ?_) (.required Decoder.text_yields))
    (.required fun _ severity _ => severity.faithful)) (.required Decoder.text_yields))
    (.required Position.decode_yields)) (.spelled Decoder.text_yields.optional (by simp)))
  intro ruleId isRuleId code isCode severity isSeverity message isMessage position isPosition
    fingerprint _
  refine ⟨?_, by simp [encode, isSeverity.exact, isPosition.exact]⟩
  cases fingerprint with
  | none =>
      simp only [encode, Option.map_none, Option.toList_none, List.append_nil]
      rw [decode, Record.decode_object_eq_ok_iff]
      simp [record, Record.defaulted, valuesOf, Decoder.text, isSeverity.again, isPosition.again]
  | some text =>
      simp only [encode, Option.map_some, Option.toList_some, List.cons_append, List.nil_append]
      rw [decode, Record.decode_object_eq_ok_iff]
      simp [record, Record.defaulted, valuesOf, Decoder.text, Decoder.optional, Except.map,
        isSeverity.again, isPosition.again]

theorem SeverityCounts.decode_yields : decode.Yields (Decoder.Faithful decode encode) := by
  refine Record.Yields.decode (.seq (.map (.required Decoder.natural32_yields) ?_)
    (.required Decoder.natural32_yields))
  intro advisory isAdvisory blocking isBlocking
  refine ⟨?_, by simp [encode, isAdvisory.exact, isBlocking.exact]⟩
  simp only [encode]
  rw [decode, Record.decode_object_eq_ok_iff]
  simp [record, valuesOf, isAdvisory.again, isBlocking.again]

theorem RepoPath.faithful (path : RepoPath) : Decoder.Faithful decode encode path :=
  ⟨rfl, .string _⟩

theorem FileReport.decode_yields : decode.Yields (Decoder.Faithful decode encode) := by
  refine Record.Yields.decode (.seq (.seq (.seq
    (.map (.required fun _ path _ => path.faithful) ?_)
    (.required fun _ status _ => status.faithful)) (.required SeverityCounts.decode_yields))
    (.required Diagnostic.decode_yields.faithful_list))
  intro path isPath status isStatus counts isCounts diagnostics isDiagnostics
  refine ⟨?_, ?_⟩
  · simp only [encode]
    rw [decode, Record.decode_object_eq_ok_iff]
    simp [record, valuesOf, isPath.again, isStatus.again, isCounts.again, isDiagnostics.again]
  · have listed := isDiagnostics.exact
    simp only [encode, Value.isExact_object_iff]
    simpa [isPath.exact, isStatus.exact, isCounts.exact] using listed

theorem Tool.faithful (tool : Tool) : Decoder.Faithful decode encode tool := by
  refine ⟨?_, by simp [encode]⟩
  simp only [encode]
  rw [decode, Record.decode_object_eq_ok_iff]
  simp [record, valuesOf, Decoder.text]

theorem RunTimes.decode_yields : decode.Yields fun run =>
    run.startedAt.IsWritable ∧ run.finishedAt.IsWritable ∧
      Decoder.Faithful decode encode run := by
  refine Record.Yields.decode (.seq (.seq (.map (.required Timestamp.decode_yields) ?_)
    (.required Timestamp.decode_yields)) (.required Decoder.natural64_yields))
  intro startedAt isStarted finishedAt isFinished durationMs isDuration
  refine ⟨isStarted.1, isFinished.1, ?_,
    by simp [encode, isStarted.2.exact, isFinished.2.exact, isDuration.exact]⟩
  simp only [encode]
  rw [decode, Record.decode_object_eq_ok_iff]
  simp [record, valuesOf, isStarted.2.again, isFinished.2.again, isDuration.again]

namespace CheckReport

theorem decode_yields : decode.Yields fun report =>
    report.run.startedAt.IsWritable ∧ report.run.finishedAt.IsWritable ∧
      Decoder.Faithful decode encode report := by
  refine Record.Yields.decode (.seq (.seq (.seq (.seq (.seq (.seq
    (.map (.required Decoder.text_yields) ?_) (.required fun _ tool _ => tool.faithful))
    (.required RunTimes.decode_yields)) (.required fun _ status _ => status.faithful))
    (.required SeverityCounts.decode_yields)) (.required Decoder.text_yields.faithful_list))
    (.required FileReport.decode_yields.faithful_list))
  intro schema isSchema tool isTool run isRun status isStatus counts isCounts layers isLayers
    files isFiles
  obtain ⟨started, finished, isRun⟩ := isRun
  refine ⟨started, finished, ?_, ?_⟩
  · simp only [encode]
    rw [decode, Record.decode_object_eq_ok_iff]
    simp [record, valuesOf, Decoder.text, isTool.again, isRun.again, isStatus.again,
      isCounts.again, isLayers.again, isFiles.again]
  · have listed := isFiles.exact
    simp only [encode, Value.isExact_object_iff]
    simpa [isTool.exact, isRun.exact, isStatus.exact, isCounts.exact] using listed

/-! ## Nesting -/

theorem depthItems_map_le {α : Type} {encode : α → Value} {bound : Nat}
    (each : ∀ item, (encode item).depth ≤ bound) (items : List α) :
    Value.depthItems (items.map encode) ≤ bound := by
  induction items with
  | nil => exact Nat.zero_le bound
  | cons item items ih =>
      have first := each item
      rw [List.map_cons, Value.depthItems]
      omega

theorem depth_encode_le (report : CheckReport) : report.encode.depth ≤ 7 := by
  have ofDiagnostic (diagnostic : Diagnostic) : diagnostic.encode.depth ≤ 3 := by
    cases fingerprint : diagnostic.fingerprint <;>
      simp [Diagnostic.encode, Position.encode, Span.encode, Severity.encode, fingerprint,
        Value.depth, Value.depthFields]
  have ofFile (file : FileReport) : file.encode.depth ≤ 5 := by
    have diagnostics := depthItems_map_le ofDiagnostic file.diagnostics
    simp only [FileReport.encode, RepoPath.encode, Status.encode, SeverityCounts.encode,
      Value.depth, Value.depthFields]
    omega
  have layers : Value.depthItems (report.layers.map .string) ≤ 0 :=
    depthItems_map_le (fun _ => Nat.le_refl 0) report.layers
  have files := depthItems_map_le ofFile report.files
  simp only [encode, Tool.encode, RunTimes.encode, Timestamp.encode, Status.encode,
    SeverityCounts.encode, Value.depth, Value.depthFields]
  omega

/--
A report that is decoded from a value can be written, and its document is read by every reader
that goes seven levels deep, as a value that decodes to the report.
-/
theorem document_restores_report {value : Value} {report : CheckReport}
    (decoded : decode value = .ok report) {depthLimit : Nat} (deep : 7 ≤ depthLimit) :
    report.run.startedAt.IsWritable ∧ report.run.finishedAt.IsWritable ∧
      ∃ parsed, Json.read? depthLimit report.document = some parsed ∧
        decode parsed = .ok report := by
  obtain ⟨started, finished, faithful⟩ := decode_yields value report decoded
  have nested := depth_encode_le report
  exact ⟨started, finished, report.encode,
    Json.read?_pretty faithful.exact (by omega), faithful.again⟩

/--
A report in another form than it is written in: parts by position, a keyword as a key, a
leap second with an offset, control characters, and a diagnostic without a fingerprint.
-/
def foreignReport : Value :=
  .object [("schema", .string "v1"), ("tool", .array [.string "lint", .string "1.0"]),
    ("run", .object [("started_at", .string "2016-12-31t23:59:60.5-00:00"),
      ("finished_at", .string "2017-01-01T05:30:00.120000000+05:30"),
      ("duration_ms", .int 18446744073709551615)]),
    ("status", .object [("blocking", .null)]), ("counts", .array [.int 0, .int 1]),
    ("layers", .array [.string "root"]),
    ("files", .array [.object [("path", .string "a.js"), ("status", .string "blocking"),
      ("counts", .array [.int 0, .int 1]),
      ("diagnostics", .array [.object [("rule_id", .string "semi"), ("code", .string "c"),
        ("severity", .string "blocking"), ("message", .string "a\x01\n\"\\ é"),
        ("position", .array [.int 1, .int 2, .array [.int 3, .int 4]]),
        ("unknown", .float ⟨0⟩)]])]])]

theorem document_restores_foreignReport :
    let started : Timestamp := ⟨2016, 12, 31, 23, 59, 59, 999999999, 0⟩
    let finished : Timestamp := ⟨2017, 1, 1, 5, 30, 0, 120000000, 330⟩
    let found : Diagnostic :=
      ⟨"semi", "c", .blocking, "a\x01\n\"\\ é", ⟨1, 2, ⟨3, 4⟩⟩, none⟩
    let report : CheckReport :=
      ⟨"v1", ⟨"lint", "1.0"⟩, ⟨started, finished, 18446744073709551615⟩, .blocking, ⟨0, 1⟩,
        ["root"], [⟨⟨"a.js"⟩, .blocking, ⟨0, 1⟩, [found]⟩]⟩
    decode foreignReport = .ok report ∧
      ∃ parsed, Json.read? 127 report.document = some parsed ∧ decode parsed = .ok report := by
  intro started finished found report
  have decoded : decode foreignReport = .ok report := rfl
  obtain ⟨-, -, restored⟩ := document_restores_report decoded (show 7 ≤ 127 by decide)
  exact ⟨decoded, restored⟩

end CheckReport

end ScriptLint
