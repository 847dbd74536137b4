import ScriptLint.Fingerprint
import ScriptLint.Report.Status

/-!
# Reports on single files

The report on a file lists its diagnostics in order, each with its fingerprint,
and sums them up.  Diagnostics that compare equal keep the order in which they
were found.
-/

namespace ScriptLint

structure FileReport where
  path : RepoPath
  status : Status
  counts : SeverityCounts
  diagnostics : List Diagnostic
  deriving DecidableEq, Repr

namespace FileReport

def ofDiagnostics (path : RepoPath) (diagnostics : List Diagnostic) : FileReport :=
  let listed := (diagnostics.mergeSort Diagnostic.notAfter).map (·.stamped path)
  { path, status := Status.ofDiagnostics listed, counts := SeverityCounts.ofDiagnostics listed
    diagnostics := listed }

def overallStatus (reports : List FileReport) : Status :=
  Status.worst (reports.map (·.status))

def totalCounts (reports : List FileReport) : SeverityCounts :=
  SeverityCounts.sum (reports.map (·.counts))

def record : Record FileReport :=
  FileReport.mk <$> .required "path" RepoPath.decode <*> .required "status" Status.decode
    <*> .required "counts" SeverityCounts.decode
    <*> .required "diagnostics" (Decoder.list Diagnostic.decode)

def decode : Decoder FileReport := record.decode "FileReport"

def encode (report : FileReport) : Value :=
  .object [("path", report.path.encode), ("status", report.status.encode),
    ("counts", report.counts.encode),
    ("diagnostics", .array (report.diagnostics.map Diagnostic.encode))]

end FileReport

end ScriptLint
