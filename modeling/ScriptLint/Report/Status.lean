import ScriptLint.Diagnostic

/-!
# Status and counts

What a list of diagnostics amounts to: the worst severity in it, and how many
diagnostics of each severity it has.
-/

namespace ScriptLint

inductive Status where
  | clean
  | advisory
  | blocking
  deriving DecidableEq, Repr

namespace Status

def name : Status → String
  | .clean => "clean"
  | .advisory => "advisory"
  | .blocking => "blocking"

def all : List Status := [.clean, .advisory, .blocking]

def rank : Status → Nat
  | .clean => 0
  | .advisory => 1
  | .blocking => 2

def worse (first second : Status) : Status :=
  if first.rank < second.rank then second else first

def ofSeverity : Severity → Status
  | .off => .clean
  | .advisory => .advisory
  | .blocking => .blocking

def worst (statuses : List Status) : Status := statuses.foldl worse .clean

def ofDiagnostics (diagnostics : List Diagnostic) : Status :=
  worst (diagnostics.map fun diagnostic => ofSeverity diagnostic.severity)

def exitCode : Status → Nat
  | .clean | .advisory => 0
  | .blocking => 2

def decode : Decoder Status := Decoder.keyword (all.map fun status => (status.name, status))

def encode (status : Status) : Value := .string status.name

end Status

structure SeverityCounts where
  advisory : Nat
  blocking : Nat
  deriving DecidableEq, Repr

namespace SeverityCounts

def zero : SeverityCounts := ⟨0, 0⟩

def add (first second : SeverityCounts) : SeverityCounts :=
  ⟨first.advisory + second.advisory, first.blocking + second.blocking⟩

def ofSeverity : Severity → SeverityCounts
  | .off => ⟨0, 0⟩
  | .advisory => ⟨1, 0⟩
  | .blocking => ⟨0, 1⟩

def sum (counts : List SeverityCounts) : SeverityCounts := counts.foldl add zero

def ofDiagnostics (diagnostics : List Diagnostic) : SeverityCounts :=
  sum (diagnostics.map fun diagnostic => ofSeverity diagnostic.severity)

def record : Record SeverityCounts :=
  SeverityCounts.mk <$> .required "advisory" Decoder.natural32
    <*> .required "blocking" Decoder.natural32

def decode : Decoder SeverityCounts := record.decode "SeverityCounts"

def encode (counts : SeverityCounts) : Value :=
  .object [("advisory", .int counts.advisory), ("blocking", .int counts.blocking)]

end SeverityCounts

end ScriptLint
