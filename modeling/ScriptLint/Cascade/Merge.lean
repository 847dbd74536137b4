import ScriptLint.Cascade.Layer
import ScriptLint.Environment.Scope
import ScriptLint.Policy

/-!
# Merging layers

Layers merge from the first to the last.  A later layer adds environments and
plugins, replaces capabilities and globals, and replaces the severity of a rule;
the options of a rule are replaced only if the later layer gives any.
-/

namespace ScriptLint

def RuleSetting.over (earlier : Option RuleSetting) (later : RuleSetting) : RuleSetting :=
  ⟨later.severity, later.options.or (earlier.bind RuleSetting.options)⟩

namespace Layer

def neutral : Layer := .empty "<empty>" .baseCatalog

/-- Two adjacent layers as one, with the name of the later. -/
def merge (earlier later : Layer) : Layer where
  name := later.name
  kind := later.kind
  environments := earlier.environments.union later.environments
  syntaxVersion := later.syntaxVersion.or earlier.syntaxVersion
  sourceType := later.sourceType.or earlier.sourceType
  plugins := earlier.plugins.union later.plugins
  globals := Dictionary.overlay (fun _ mode => mode) earlier.globals later.globals
  rules := Dictionary.overlay RuleSetting.over earlier.rules later.rules

def mergeAll (layers : List Layer) : Layer := layers.foldl merge neutral

/-! ## Finishing a policy -/

def declaredPlugins (layers : List Layer) : List String :=
  layers.flatMap fun layer => layer.plugins.keys

def undeclaredRule? (registry : Registry) (declared : List String) (layer : Layer) :
    Option String :=
  layer.rules.keys.find? fun id =>
    match (registry.get? id).bind (·.plugin) with
    | some plugin => !declared.contains plugin
    | none => false

def checkPluginRules (registry : Registry) (declared : List String) :
    List Layer → Except ConfigError Unit
  | [] => .ok ()
  | layer :: rest =>
      match layer.undeclaredRule? registry declared with
      | some id => .error ⟨layer.name, .unknownRule id⟩
      | none => checkPluginRules registry declared rest

/--
The globals of environments come below declared ones, and capabilities that no
layer sets are those that the environments imply, or the defaults.
-/
def policyIn (layer : Layer) (scope : Environment) : Policy where
  environments := layer.environments
  capabilities :=
    ⟨(layer.syntaxVersion.or scope.syntaxVersion).getD ParserCapabilities.default.syntaxVersion,
      (layer.sourceType.or scope.sourceType).getD ParserCapabilities.default.sourceType⟩
  globals := Dictionary.overlay (fun _ mode => mode) scope.globals layer.globals
  rules := layer.rules.map fun setting => ⟨setting.severity, setting.options.getD []⟩

def finish (registry : Registry) (layer : Layer) : Except ConfigError Policy :=
  match registry.environments.resolve layer.environments with
  | .error unknown => .error ⟨layer.name, .unknownEnvironment unknown.id⟩
  | .ok scope => .ok (layer.policyIn scope)

def resolve (registry : Registry) (layers : List Layer) : Except ConfigError Policy :=
  match checkPluginRules registry (declaredPlugins layers) layers with
  | .error error => .error error
  | .ok () => (mergeAll layers).finish registry

end Layer

end ScriptLint
