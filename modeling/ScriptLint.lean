import ScriptLint.Check
import ScriptLint.Explanation
import ScriptLint.Proofs.Cascade.Addressing
import ScriptLint.Proofs.Cascade.Codec
import ScriptLint.Proofs.Cascade.Enlarging
import ScriptLint.Proofs.Cascade.Grouping
import ScriptLint.Proofs.Cascade.Listing
import ScriptLint.Proofs.Cascade.Overriding
import ScriptLint.Proofs.Cascade.Precedence
import ScriptLint.Proofs.Cascade.Repetition
import ScriptLint.Proofs.Cascade.SettingGrammar
import ScriptLint.Proofs.Cascade.Spelling
import ScriptLint.Proofs.Cascade.WellFormed
import ScriptLint.Proofs.Engine.Contribution
import ScriptLint.Proofs.Engine.Failure
import ScriptLint.Proofs.Engine.Listening
import ScriptLint.Proofs.Engine.Weight
import ScriptLint.Proofs.Environment.Join
import ScriptLint.Proofs.Environment.Scope
import ScriptLint.Proofs.Json.Reading
import ScriptLint.Proofs.Lexical.Binders
import ScriptLint.Proofs.Lexical.Nesting
import ScriptLint.Proofs.Lexical.Tables
import ScriptLint.Proofs.Lexical.Tally
import ScriptLint.Proofs.Lexical.Tracking
import ScriptLint.Proofs.Registry.Explaining
import ScriptLint.Proofs.Registry.History
import ScriptLint.Proofs.Report.Codec
import ScriptLint.Proofs.Report.Identity
import ScriptLint.Proofs.Report.Normalization
import ScriptLint.Proofs.Report.Reordering
import ScriptLint.Proofs.Report.RepoPath
import ScriptLint.Proofs.Report.Timestamp
import ScriptLint.Proofs.Report.Totals
import ScriptLint.Proofs.Rules.BuiltIn
import ScriptLint.Proofs.Rules.Concatenation
import ScriptLint.Proofs.Rules.Console
import ScriptLint.Proofs.Rules.Inspection
import ScriptLint.Proofs.Rules.NameCase
import ScriptLint.Proofs.Rules.Names
import ScriptLint.Proofs.Rules.QuoteStyle
import ScriptLint.Proofs.Rules.UnusedVariables
import ScriptLint.Proofs.Syntax.Layout
import ScriptLint.Proofs.Value.Canonical
import ScriptLint.Proofs.Value.Record
import ScriptLint.Report.Golden
import ScriptLint.Report.Text
import ScriptLint.Syntax.Build
import ScriptLint.Syntax.Codec
import ScriptLint.Syntax.Layout
