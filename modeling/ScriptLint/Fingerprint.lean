import ScriptLint.Diagnostic
import ScriptLint.Digest.Sha256
import ScriptLint.RepoPath

/-!
# Fingerprints

The fingerprint of a diagnostic is the digest of the six things that identify
it: the path of its file, its rule and code, its line and column, and its
message.
-/

namespace ScriptLint

namespace Fingerprint

/-- The text that is digested: the six parts in order, with bars between them. -/
def canonicalText (path : String) (diagnostic : Diagnostic) : String :=
  "|".intercalate [path, diagnostic.ruleId, diagnostic.code,
    Text.natural diagnostic.position.line, Text.natural diagnostic.position.column,
    diagnostic.message]

def of (path : String) (diagnostic : Diagnostic) : String :=
  Sha256.hexDigest (canonicalText path diagnostic)

end Fingerprint

def Diagnostic.stamped (path : RepoPath) (diagnostic : Diagnostic) : Diagnostic :=
  { diagnostic with fingerprint := some (Fingerprint.of path.text diagnostic) }

end ScriptLint
