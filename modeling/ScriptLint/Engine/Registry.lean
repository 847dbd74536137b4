import ScriptLint.Environment.Catalog
import ScriptLint.Rules.Expressions
import ScriptLint.Rules.Names
import ScriptLint.Rules.Statements
import ScriptLint.Rules.Style

/-!
# The registry

All rules, plugins and environments that policies may refer to.  Ids and aliases
of rules share one namespace.  A plugin's rules and environments are known as
`plugin/name`; its named configurations are documents that policies may extend.
-/

namespace ScriptLint

inductive RegistryError where
  | duplicateRule (name : String)
  | duplicatePlugin (name : String)
  deriving DecidableEq, Repr

def RegistryError.message : RegistryError → String
  | .duplicateRule name => s!"rule already registered: {name}"
  | .duplicatePlugin name => s!"plugin already registered: {name}"

structure RegisteredRule where
  id : String
  plugin : Option String
  rule : Rule

structure Plugin where
  name : String
  rules : List Rule
  configs : Dictionary Value
  environments : Dictionary Environment

structure Registry where
  rules : List RegisteredRule
  positions : Dictionary Nat
  aliases : Dictionary String
  plugins : Dictionary (Dictionary Value)
  environments : EnvironmentTable

namespace Registry

def empty : Registry := ⟨[], ∅, ∅, ∅, ∅⟩

/-! ## Look-up -/

def canonicalId? (registry : Registry) (name : String) : Option String :=
  if registry.positions.contains name then some name else registry.aliases.get? name

def get? (registry : Registry) (name : String) : Option RegisteredRule :=
  match registry.canonicalId? name with
  | none => none
  | some id =>
      match registry.positions.get? id with
      | none => none
      | some position => registry.rules[position]?

def configs? (registry : Registry) (plugin : String) : Option (Dictionary Value) :=
  registry.plugins.get? plugin

/-! ## Registration -/

def isTaken (registry : Registry) (name : String) : Bool :=
  registry.positions.contains name || registry.aliases.contains name

/-- Checks names in order against the registry and against those before them. -/
def checkNames (registry : Registry) (pending : NameSet) : List String → Except RegistryError Unit
  | [] => .ok ()
  | name :: rest =>
      if registry.isTaken name || pending.contains name then .error (.duplicateRule name)
      else checkNames registry (pending.add name) rest

def add (registry : Registry) (plugin : Option String) (rule : Rule) : Registry :=
  match rule.names plugin with
  | [] => registry
  | id :: aliases =>
      { registry with
        rules := registry.rules ++ [⟨id, plugin, rule⟩]
        positions := registry.positions.insert id registry.rules.length
        aliases := aliases.foldl (fun table name => table.insert name id) registry.aliases }

def register (registry : Registry) (rule : Rule) : Except RegistryError Registry :=
  match registry.checkNames ∅ (rule.names none) with
  | .error cause => .error cause
  | .ok () => .ok (registry.add none rule)

def addEnvironments (registry : Registry) (plugin : Plugin) : Registry :=
  { registry with
    environments := plugin.environments.entries.foldl
      (fun table entry => table.insert s!"{plugin.name}/{entry.1}" entry.2)
      registry.environments }

def registerPlugin (registry : Registry) (plugin : Plugin) : Except RegistryError Registry :=
  if registry.plugins.contains plugin.name then .error (.duplicatePlugin plugin.name)
  else
    match registry.checkNames ∅ (plugin.rules.flatMap (·.names (some plugin.name))) with
    | .error cause => .error cause
    | .ok () =>
        let withRules :=
          plugin.rules.foldl (fun current rule => current.add (some plugin.name) rule) registry
        let withEnvironments := withRules.addEnvironments plugin
        .ok { withEnvironments with
          plugins := withEnvironments.plugins.insert plugin.name plugin.configs }

end Registry

/-! ## What is built in -/

def Rules.builtIn (engine : PatternEngine) : List Rule := [
  StatementTerminator.rule, QuoteStyle.rule, NoConsole.rule, NoDebugger.rule, NoUndef.rule,
  NoGlobalAssign.rule, NoUnusedVars.rule engine, NoVar.rule, PreferConst.rule,
  PreferTemplate.rule, Camelcase.rule engine, StrictEquality.rule]

def Registry.builtIn (engine : PatternEngine) : Registry :=
  (Rules.builtIn engine).foldl (fun registry rule => registry.add none rule)
    { empty with environments := .builtIn }

end ScriptLint
