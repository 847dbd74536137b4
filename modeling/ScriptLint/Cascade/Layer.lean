import ScriptLint.Cascade.ConfigError
import ScriptLint.Cascade.Document
import ScriptLint.Engine.Registry

/-!
# Policy layers

A layer is a document that has been checked against the registry: rules go by
their ids, and every value has its meaning.  What a document extends is not part
of its layer.
-/

namespace ScriptLint

inductive LayerKind where
  | baseCatalog
  | inherited
  | pluginCatalog
  | localOverride
  deriving DecidableEq, Repr

structure Layer where
  name : String
  kind : LayerKind
  environments : NameSet
  syntaxVersion : Option SyntaxVersion
  sourceType : Option SourceType
  plugins : NameSet
  globals : Globals
  rules : Dictionary RuleSetting

/-! ## Meaning of declarations -/

namespace GlobalDeclaration

def access : GlobalDeclaration → Except UnknownMode AccessMode
  | .flag true => .ok .readWrite
  | .flag false => .ok .readOnly
  | .mode name =>
      if name ∈ ["writable", "writeable", "readwrite", "read-write"] then .ok .readWrite
      else if name ∈ ["readonly", "readable", "read-only"] then .ok .readOnly
      else .error ⟨name⟩

end GlobalDeclaration

namespace CapabilitiesDeclaration

def version : Option VersionDeclaration → Except CapabilityFault (Option SyntaxVersion)
  | none => .ok none
  | some (.number edition) =>
      match SyntaxVersion.ofNumber? edition with
      | some version => .ok (some version)
      | none => .error (.unsupportedVersion edition)
  | some (.name text) =>
      if text = "latest" then .ok (some .latest) else .error (.unknownVersion text)

def source : Option String → Option Bool → Except CapabilityFault (Option SourceType)
  | some _, some _ => .error .combined
  | some name, none =>
      if name = "script" then .ok (some .script)
      else if name = "commonjs" then .ok (some .commonJs)
      else if name = "module" then .ok (some .module)
      else .error (.unknownSourceType name)
  | none, some true => .ok (some .module)
  | none, some false => .ok (some .script)
  | none, none => .ok none

def meaning (declaration : CapabilitiesDeclaration) :
    Except CapabilityFault (Option SyntaxVersion × Option SourceType) :=
  match version declaration.syntaxVersion with
  | .error fault => .error fault
  | .ok version =>
      match source declaration.sourceType declaration.moduleMode with
      | .error fault => .error fault
      | .ok sourceType => .ok (version, sourceType)

end CapabilitiesDeclaration

namespace Layer

def empty (name : String) (kind : LayerKind) : Layer := ⟨name, kind, ∅, none, none, ∅, ∅, ∅⟩

/-! ## Checking a document -/

def checkKnown (isKnown : String → Bool) (fault : String → ConfigFault) :
    List String → Except ConfigFault NameSet
  | names =>
      match names.find? fun name => !isKnown name with
      | some name => .error (fault name)
      | none => .ok (NameSet.ofNames names)

def checkGlobals : List (String × GlobalDeclaration) →
    Except ConfigFault (List (String × AccessMode))
  | [] => .ok []
  | (name, declaration) :: rest =>
      match declaration.access with
      | .error cause => .error (.invalidGlobal name cause)
      | .ok mode => (checkGlobals rest).map ((name, mode) :: ·)

def checkRule (registry : Registry) (name : String) (value : Value) :
    Except ConfigFault (String × RuleSetting) :=
  match registry.get? name with
  | none => .error (.unknownRule name)
  | some registered =>
      match RuleSetting.resolve value with
      | .error cause => .error (.invalidSeverity name cause)
      | .ok setting =>
          match setting.options with
          | none => .ok (registered.id, setting)
          | some options =>
              match registered.rule.validate options with
              | .error cause => .error (.invalidOptions name cause)
              | .ok () => .ok (registered.id, setting)

def checkRules (registry : Registry) : List (String × Value) →
    Except ConfigFault (List (String × RuleSetting))
  | [] => .ok []
  | (name, value) :: rest =>
      match checkRule registry name value with
      | .error fault => .error fault
      | .ok setting => (checkRules registry rest).map (setting :: ·)

def checkCapabilities : Option CapabilitiesDeclaration →
    Except ConfigFault (Option SyntaxVersion × Option SourceType)
  | none => .ok (none, none)
  | some declaration =>
      match declaration.meaning with
      | .error cause => .error (.invalidCapability cause)
      | .ok meaning => .ok meaning

/--
Environments are checked first, then capabilities, plugins, globals and rules.  Of
two spellings of one rule the later one in the order of names counts.
-/
def checkDocument (registry : Registry) (name : String) (kind : LayerKind)
    (document : PolicyDocument) : Except ConfigFault Layer := do
  let ids := (document.environments.map EnvironmentsDeclaration.ids).getD []
  let environments ← checkKnown registry.environments.contains .unknownEnvironment ids
  let (syntaxVersion, sourceType) ← checkCapabilities document.capabilities
  let plugins ← checkKnown registry.plugins.contains .unknownPlugin document.plugins
  let globals ← checkGlobals document.globals.entries
  let rules ← checkRules registry document.rules.entries
  return ⟨name, kind, environments, syntaxVersion, sourceType, plugins, .ofList globals,
    .ofList rules⟩

def ofDocument (registry : Registry) (name : String) (kind : LayerKind)
    (document : PolicyDocument) : Except ConfigError Layer :=
  match checkDocument registry name kind document with
  | .error fault => .error ⟨name, fault⟩
  | .ok layer => .ok layer

end Layer

end ScriptLint
