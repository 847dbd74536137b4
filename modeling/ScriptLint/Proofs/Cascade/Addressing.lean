import ScriptLint.Pattern.Parser
import ScriptLint.Proofs.Cascade.Listing
import ScriptLint.Proofs.Cascade.WellFormed

/-!
# Which configurations can be extended

A configuration is extended under the name of its plugin and its own name with a slash
between them, and is read back by a cut at the first slash.  The cut undoes the joining
just if the name of the plugin has no slash; what is in the name of the configuration
and which other plugins there are does not matter.  A plugin whose name has a slash is
declared by no reference, and references to its configurations are those to
configurations of another plugin.
-/

namespace ScriptLint

namespace PluginReference

theorem exists_first_slash {name : String} (slashed : '/' ∈ name.toList) :
    ∃ owner inner : String, '/' ∉ owner.toList ∧ name = s!"{owner}/{inner}" := by
  obtain ⟨before, after, split, first⟩ := List.eq_append_cons_of_mem slashed
  refine ⟨.ofList before, .ofList after, by rwa [String.toList_ofList], ?_⟩
  rw [← String.toList_inj, split]
  simp [toString]

/-- In a reference the name of a plugin ends at its first slash. -/
theorem text_nested (owner inner config : String) :
    text ⟨s!"{owner}/{inner}", config⟩ = text ⟨owner, s!"{inner}/{config}"⟩ := by
  simp [text, toString, String.append_assoc]

end PluginReference

namespace Target

variable {registry : Registry} {sources : Sources} {layer : String}

theorem find_text_of_config {reference : PluginReference} {value : Value}
    {document : PolicyDocument} (whole : '/' ∉ reference.plugin.toList)
    (found : config? registry reference = some value)
    (parsed : PolicyDocument.ofValue value = .ok document) :
    find registry sources layer reference.text =
      .ok (.document ⟨.pluginCatalog, some reference.plugin, document⟩) := by
  have provided : Provides registry sources reference.text (some reference.plugin)
      (.value value) := .config whole found
  exact find_of_parsed provided parsed layer

theorem notMem_plugin_of_find {reference : String} {extension : Extension} {plugin : String}
    (found : find registry sources layer reference = .ok (.document extension))
    (declares : extension.plugin = some plugin) : '/' ∉ plugin.toList := by
  rcases Expansion.find_ok_cases found with
    ⟨preset, -, same⟩ | ⟨owner, source, document, provided, -, same⟩
  · cases same
  · cases same
    obtain rfl : owner = some plugin := declares
    cases provided with
    | config whole => exact whole

/--
The reference to a configuration that parses finds exactly this document, and declares exactly
its plugin, just if the name of the plugin has no slash.  Then the last layer of what is
extended is the configuration's own and declares, beside what the configuration lists, the
plugin.  A plugin with a slash in its name is declared by no reference at all, and the one to
its configuration is a reference to a plugin with a shorter name.
-/
theorem finds_config_iff_no_slash {reference : PluginReference} {value : Value}
    {document : PolicyDocument} (found : config? registry reference = some value)
    (parsed : PolicyDocument.ofValue value = .ok document) (sources : Sources) (layer : String) :
    (find registry sources layer reference.text =
        .ok (.document ⟨.pluginCatalog, some reference.plugin, document⟩) ↔
      '/' ∉ reference.plugin.toList) ∧
    ('/' ∉ reference.plugin.toList → ∀ layers,
      Expansion.ListsAll registry sources [reference.text] layers →
        ∃ inherited own, layers = inherited ++ [own] ∧
          Expansion.ListsAll registry sources document.references inherited ∧
          own.name = reference.text ∧
          ∀ plugin, own.plugins.contains plugin = true ↔
            plugin = reference.plugin ∨ plugin ∈ document.plugins) ∧
    ('/' ∈ reference.plugin.toList →
      (∀ other extension, find registry sources layer other = .ok (.document extension) →
        extension.plugin ≠ some reference.plugin) ∧
      ∃ owner inner : String, '/' ∉ owner.toList ∧ reference.plugin = s!"{owner}/{inner}" ∧
        reference.text = PluginReference.text ⟨owner, s!"{inner}/{reference.config}"⟩) := by
  refine ⟨⟨fun succeeds => notMem_plugin_of_find succeeds rfl, fun whole =>
    find_text_of_config whole found parsed⟩, ?_, ?_⟩
  · intro whole layers listed
    have provided : Provides registry sources reference.text (some reference.plugin)
        (.value value) := .config whole found
    obtain ⟨extended, inherited, own, following, isParsed, isBelow, passed, others, rfl⟩ :=
      Expansion.listsAll_document_cases provided listed
    cases parsed.symm.trans isParsed
    cases others
    refine ⟨inherited, own.declaring (some reference.plugin), rfl, isBelow, ?_, ?_⟩
    · obtain ⟨meaning, globals, rules, -, -, -, -, -, rfl⟩ := Layer.ofDocument_eq_ok_iff.mp passed
      rfl
    · intro plugin
      rw [Layer.contains_plugins_declaring, Layer.contains_plugins_of_ofDocument passed,
        Option.some.injEq, eq_comm]
  · intro slashed
    refine ⟨fun other extension succeeds declares =>
      notMem_plugin_of_find succeeds declares slashed, ?_⟩
    obtain ⟨owner, inner, whole, nested⟩ := PluginReference.exists_first_slash slashed
    obtain ⟨plugin, config⟩ := reference
    obtain rfl : plugin = s!"{owner}/{inner}" := nested
    exact ⟨owner, inner, whole, rfl, PluginReference.text_nested owner inner config⟩

/-! ## Scoped names -/

def configPlugin (name config : String) (document : Value) : Plugin :=
  ⟨name, [], (∅ : Dictionary Value).insert config document, ∅⟩

def hostSettings : Value := .object [("globals", .object [("host", .bool true)])]

def hostDocument : PolicyDocument :=
  { PolicyDocument.empty with
    globals := (∅ : Dictionary GlobalDeclaration).insert "host" (.flag true) }

def scopedRegistry : Registry :=
  { Registry.builtIn .standard with
    plugins := (∅ : Dictionary (Dictionary Value)).insert "@scope/house"
      (configPlugin "@scope/house" "strict" hostSettings).configs }

def crowdedRegistry : Registry :=
  { scopedRegistry with
    plugins := scopedRegistry.plugins.insert "@scope"
      (configPlugin "@scope" "house/strict" (.object [])).configs }

theorem reachable_scopedRegistry : scopedRegistry.Reachable :=
  .registerPlugin .builtIn (show (Registry.builtIn .standard).registerPlugin
    (configPlugin "@scope/house" "strict" hostSettings) = _ from rfl)

theorem reachable_crowdedRegistry : crowdedRegistry.Reachable :=
  .registerPlugin reachable_scopedRegistry (show scopedRegistry.registerPlugin
    (configPlugin "@scope" "house/strict" (.object [])) = _ from rfl)

/-- A slash in the name of a configuration does no harm. -/
theorem finds_config_with_slash :
    crowdedRegistry.Reachable ∧
      config? crowdedRegistry ⟨"@scope", "house/strict"⟩ = some (.object []) ∧
      PolicyDocument.ofValue (.object []) = .ok .empty ∧
      find crowdedRegistry ∅ "root" "plugin:@scope/house/strict" =
        .ok (.document ⟨.pluginCatalog, some "@scope", .empty⟩) := by
  have found : config? crowdedRegistry ⟨"@scope", "house/strict"⟩ = some (.object []) := rfl
  have parsed : PolicyDocument.ofValue (.object []) = .ok .empty := rfl
  refine ⟨reachable_crowdedRegistry, found, parsed, ?_⟩
  exact (finds_config_iff_no_slash found parsed ∅ "root").1.mpr (by decide)

/--
The reference to the configuration of a scoped plugin finds nothing; with another plugin it
finds a document of that plugin and declares that plugin.
-/
theorem scoped_config_is_not_found :
    (scopedRegistry.Reachable ∧
      config? scopedRegistry ⟨"@scope/house", "strict"⟩ = some hostSettings ∧
      PolicyDocument.ofValue hostSettings = .ok hostDocument ∧
      PluginReference.text ⟨"@scope/house", "strict"⟩ = "plugin:@scope/house/strict" ∧
      find scopedRegistry ∅ "root" "plugin:@scope/house/strict" =
        .error ⟨"root", .unresolvedExtends "plugin:@scope/house/strict"⟩) ∧
      crowdedRegistry.Reachable ∧
      config? crowdedRegistry ⟨"@scope/house", "strict"⟩ = some hostSettings ∧
      find crowdedRegistry ∅ "root" "plugin:@scope/house/strict" =
        .ok (.document ⟨.pluginCatalog, some "@scope", .empty⟩) :=
  ⟨⟨reachable_scopedRegistry, rfl, rfl, rfl, rfl⟩, reachable_crowdedRegistry, rfl, rfl⟩

end Target

end ScriptLint
