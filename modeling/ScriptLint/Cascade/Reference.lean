import ScriptLint.Cascade.Layer
import ScriptLint.Cascade.Source

/-!
# References

A document extends presets, named configurations of plugins, and sources.  Presets are
the recommended rules, and all rules, each of them blocking; rules of plugins are in
neither.  A reference to a configuration reads `plugin:name/configuration`, where the name of
the plugin ends at the first slash.
-/

namespace ScriptLint

/-! ## Presets -/

namespace Preset

def recommended : String := "stylepolicy:recommended"

def all : String := "stylepolicy:all"

def catalog (registry : Registry) (name : String) (keep : Rule → Bool) : Layer :=
  let chosen := registry.rules.filter fun registered =>
    registered.plugin.isNone && keep registered.rule
  { Layer.empty name .baseCatalog with
    rules := .ofList (chosen.map fun registered => (registered.id, ⟨.blocking, none⟩)) }

/-- The preset with a name; each preset has a second name, which documents for other linters use. -/
def find? (registry : Registry) (reference : String) : Option Layer :=
  if reference = recommended ∨ reference = "eslint:recommended" then
    some (catalog registry recommended (·.recommended))
  else if reference = all ∨ reference = "eslint:all" then
    some (catalog registry all fun _ => true)
  else none

end Preset

/-! ## References to plugins -/

structure PluginReference where
  plugin : String
  config : String
  deriving DecidableEq, Repr

namespace PluginReference

def opening : List Char := ['p', 'l', 'u', 'g', 'i', 'n', ':']

def text (reference : PluginReference) : String :=
  String.ofList (opening ++ (reference.plugin.toList ++ '/' :: reference.config.toList))

def afterOpening? : List Char → List Char → Option (List Char)
  | [], rest => some rest
  | _ :: _, [] => none
  | expected :: opening, character :: rest =>
      if character = expected then afterOpening? opening rest else none

def target? (reference : String) : Option (List Char) := afterOpening? opening reference.toList

def ofTarget? (target : List Char) : Option PluginReference :=
  match target.dropWhile (· != '/') with
  | [] => none
  | _ :: config => some ⟨String.ofList (target.takeWhile (· != '/')), String.ofList config⟩

theorem eq_append_of_afterOpening? {opening input rest : List Char}
    (split : afterOpening? opening input = some rest) : input = opening ++ rest := by
  fun_induction afterOpening? opening input with
  | case1 => simpa using split
  | case2 => cases split
  | case3 opening _ _ ih => simpa using ih split
  | case4 => cases split

theorem text_of_target? {reference : String} {target : List Char} {parsed : PluginReference}
    (isPlugin : target? reference = some target) (parse : ofTarget? target = some parsed) :
    reference = parsed.text := by
  have whole := eq_append_of_afterOpening? isPlugin
  unfold ofTarget? at parse
  split at parse
  · cases parse
  · rename_i slash config same
    have isSlash : slash = '/' := by
      have stops := List.head?_dropWhile_not (· != '/') target
      rw [same] at stops
      simpa using stops
    cases parse
    subst isSlash
    simp only [text, String.toList_ofList]
    rw [← same, List.takeWhile_append_dropWhile, ← whole, String.ofList_toList]

end PluginReference

/-! ## What a reference stands for -/

structure Extension where
  kind : LayerKind
  plugin : Option String
  document : PolicyDocument

inductive Target where
  | preset (layer : Layer)
  | document (extension : Extension)

namespace Target

def ofSource (reference : String) (kind : LayerKind) (plugin : Option String) (source : Source) :
    Except ConfigError Target :=
  match source.parse reference with
  | .error error => .error error
  | .ok parsed => .ok (.document ⟨kind, plugin, parsed⟩)

def config? (registry : Registry) (reference : PluginReference) : Option Value :=
  (registry.configs? reference.plugin).bind (·.get? reference.config)

def find (registry : Registry) (sources : Sources) (layer reference : String) :
    Except ConfigError Target :=
  match Preset.find? registry reference with
  | some layer => .ok (.preset layer)
  | none =>
      match PluginReference.target? reference with
      | some target =>
          match PluginReference.ofTarget? target with
          | none => .error ⟨layer, .unresolvedExtends reference⟩
          | some parsed =>
              match config? registry parsed with
              | none => .error ⟨layer, .unresolvedExtends reference⟩
              | some config =>
                  ofSource reference .pluginCatalog (some parsed.plugin) (.value config)
      | none =>
          match sources.load? reference with
          | none => .error ⟨layer, .unresolvedExtends reference⟩
          | some source => ofSource reference .inherited none source

/-! ## All documents that references can stand for -/

def pluginReferences (registry : Registry) : List String :=
  registry.plugins.entries.flatMap fun plugin =>
    plugin.2.keys.map fun config => PluginReference.text ⟨plugin.1, config⟩

def references (registry : Registry) (sources : Sources) : List String :=
  sources.names ++ pluginReferences registry

theorem mem_pluginReferences {registry : Registry} {reference : PluginReference} {config : Value}
    (found : config? registry reference = some config) :
    reference.text ∈ pluginReferences registry := by
  obtain ⟨configs, plugin, inConfigs⟩ := Option.bind_eq_some_iff.mp found
  refine List.mem_flatMap.mpr ⟨_, Dictionary.mem_of_get? plugin, ?_⟩
  exact List.mem_map.mpr ⟨_, Dictionary.mem_keys_of_get? inConfigs, rfl⟩

theorem mem_references {registry : Registry} {sources : Sources} {layer reference : String}
    {extension : Extension}
    (found : find registry sources layer reference = .ok (.document extension)) :
    reference ∈ references registry sources := by
  unfold find at found
  split at found
  · cases found
  · split at found
    · rename_i target isPlugin
      split at found
      · cases found
      · rename_i parsed parse
        split at found
        · cases found
        · rename_i config isConfig
          rw [PluginReference.text_of_target? isPlugin parse]
          exact List.mem_append_right _ (mem_pluginReferences isConfig)
    · split at found
      · cases found
      · rename_i source isSource
        exact List.mem_append_left _ (sources.mem_names isSource)

end Target

end ScriptLint
