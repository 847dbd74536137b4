import ScriptLint.Report.FileReport
import ScriptLint.Timestamp

/-!
# Reports on whole runs

The report of a run says which tool made it and when, which policy layers were
in force, and what was found in each file.
-/

namespace ScriptLint

structure Tool where
  name : String
  version : String
  deriving DecidableEq, Repr

structure RunTimes where
  startedAt : Timestamp
  finishedAt : Timestamp
  durationMs : Nat
  deriving DecidableEq, Repr

structure CheckReport where
  schema : String
  tool : Tool
  run : RunTimes
  status : Status
  counts : SeverityCounts
  layers : List String
  files : List FileReport
  deriving DecidableEq, Repr

namespace Tool

def record : Record Tool :=
  Tool.mk <$> .required "name" Decoder.text <*> .required "version" Decoder.text

def decode : Decoder Tool := record.decode "ToolMeta"

def encode (tool : Tool) : Value :=
  .object [("name", .string tool.name), ("version", .string tool.version)]

end Tool

namespace RunTimes

def record : Record RunTimes :=
  RunTimes.mk <$> .required "started_at" Timestamp.decode
    <*> .required "finished_at" Timestamp.decode <*> .required "duration_ms" Decoder.natural64

def decode : Decoder RunTimes := record.decode "RunMeta"

def encode (run : RunTimes) : Value :=
  .object [("started_at", run.startedAt.encode), ("finished_at", run.finishedAt.encode),
    ("duration_ms", .int run.durationMs)]

end RunTimes

namespace CheckReport

def schemaId : String := "stylepolicy.report.v1"

def toolName : String := "stylepolicy"

def record : Record CheckReport :=
  CheckReport.mk <$> .required "schema" Decoder.text <*> .required "tool" Tool.decode
    <*> .required "run" RunTimes.decode <*> .required "status" Status.decode
    <*> .required "counts" SeverityCounts.decode
    <*> .required "layers" (Decoder.list Decoder.text)
    <*> .required "files" (Decoder.list FileReport.decode)

def decode : Decoder CheckReport := record.decode "CheckReport"

def encode (report : CheckReport) : Value :=
  .object [("schema", .string report.schema), ("tool", report.tool.encode),
    ("run", report.run.encode), ("status", report.status.encode),
    ("counts", report.counts.encode), ("layers", .array (report.layers.map .string)),
    ("files", .array (report.files.map FileReport.encode))]

end CheckReport

end ScriptLint
