import ScriptLint.Environment.Basic
import ScriptLint.Rule.Options
import ScriptLint.Severity
import ScriptLint.Syntax.Node

/-!
# Rules

A rule names the kinds of nodes it wants to see and is a machine with a private
state of its own: it is created from its options, steps at every such node on
the way in and on the way out, and finishes after the last node.  Each step may
report findings, and may fail.  A rule sees neither other rules nor its severity.
-/

namespace ScriptLint

/-! ## What a rule sees -/

structure Located where
  node : Node
  index : Nat

structure Surroundings where
  ruleId : String
  globals : Globals
  capabilities : ParserCapabilities

/-- The place of a node in its tree: the enclosing nodes, the nearest first. -/
structure Context extends Surroundings where
  index : Nat
  ancestors : List Located

namespace Context

def parent? (context : Context) : Option Located := context.ancestors.head?

def grandparent? (context : Context) : Option Located := context.ancestors.tail.head?

def parentKind? (context : Context) : Option NodeKind :=
  context.parent?.map (·.node.kind)

def insideFunction (context : Context) : Bool :=
  context.ancestors.any fun ancestor => ancestor.node.kind = .functionDeclaration

end Context

/-! ## What a rule does -/

structure Finding where
  code : String
  message : String
  position : Position
  deriving DecidableEq, Repr

inductive Failure where
  | options (cause : OptionsError)
  | internal (reason : String)
  /-- The rule stopped without an answer of its own. -/
  | panicked (reason : String)

def Failure.message : Failure → String
  | .options cause => s!"invalid options: {cause.message}"
  | .internal reason => reason
  | .panicked reason => s!"panicked: {reason}"

/-- What one step of a rule comes to: what it reports, and the next state or a failure. -/
structure Outcome (σ : Type) where
  findings : List Finding
  result : Except Failure σ

namespace Outcome

variable {σ : Type}

def report (state : σ) (findings : List Finding) : Outcome σ := ⟨findings, .ok state⟩

def quiet (state : σ) : Outcome σ := ⟨[], .ok state⟩

def ofExcept : Except Failure (σ × List Finding) → Outcome σ
  | .ok (state, findings) => report state findings
  | .error failure => ⟨[], .error failure⟩

instance : Coe (Except Failure (σ × List Finding)) (Outcome σ) := ⟨ofExcept⟩

end Outcome

structure Rule where
  name : String
  description : String
  recommended : Bool
  aliases : List String
  interests : List NodeKind
  validate : List Value → Except OptionsError Unit
  State : Type
  create : List Value → Except Failure State
  enter : State → Context → Node → Outcome State
  exit : State → Context → Node → Outcome State
  finish : State → Surroundings → Outcome State

namespace Rule

/-- The names under which a rule is known, its id first, inside a plugin's namespace if any. -/
def names (rule : Rule) (plugin : Option String) : List String :=
  let qualified (name : String) : String :=
    match plugin with
    | none => name
    | some owner => s!"{owner}/{name}"
  (rule.name :: rule.aliases).map qualified

def created {σ τ : Type} (settings : Except OptionsError σ) (start : σ → τ) : Except Failure τ :=
  match settings with
  | .ok settings => .ok (start settings)
  | .error cause => .error (.options cause)

def validated {σ : Type} (settings : Except OptionsError σ) : Except OptionsError Unit :=
  settings.map fun _ => ()

end Rule

end ScriptLint
