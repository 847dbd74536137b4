import Mathlib.Data.List.TakeWhile
import ScriptLint.Cascade.Reference

/-!
# What references stand for

A reference is the name of a preset, or it begins like a reference to a plugin and
stands for a configuration of that plugin or for nothing, or it is looked up among the
sources.  `Target.Provides` says so without the order in which the three are tried, and
`Target.find` agrees with it.
-/

namespace ScriptLint

/-! ## Presets -/

def Preset.IsName (reference : String) : Prop :=
  reference ∈ [recommended, "eslint:recommended", all, "eslint:all"]

theorem Preset.find?_of_isName {reference : String} (named : IsName reference)
    (registry : Registry) : ∃ layer, find? registry reference = some layer := by
  simp only [IsName, List.mem_cons, List.not_mem_nil, or_false] at named
  unfold find?
  split
  · exact ⟨_, rfl⟩
  · rename_i notRecommended
    rw [← or_assoc] at named
    rw [if_pos (named.resolve_left notRecommended)]
    exact ⟨_, rfl⟩

theorem Preset.eq_catalog_of_find? {registry : Registry} {reference : String} {layer : Layer}
    (found : find? registry reference = some layer) :
    ∃ (name : String) (keep : Rule → Bool), layer = catalog registry name keep := by
  unfold find? at found
  split at found
  · exact ⟨_, _, (Option.some.inj found).symm⟩
  · split at found
    · exact ⟨_, _, (Option.some.inj found).symm⟩
    · cases found

theorem Preset.find?_of_not_isName {reference : String} (other : ¬ IsName reference)
    (registry : Registry) : find? registry reference = none := by
  simp only [IsName, List.mem_cons, List.not_mem_nil, or_false, not_or] at other
  simp [find?, other]

theorem Preset.isName_of_find? {registry : Registry} {reference : String} {layer : Layer}
    (found : find? registry reference = some layer) : IsName reference := by
  by_contra other
  simp [find?_of_not_isName other] at found

/-! ## Configurations of plugins -/

namespace PluginReference

theorem afterOpening?_append (opening rest : List Char) :
    afterOpening? opening (opening ++ rest) = some rest := by
  induction opening with
  | nil => cases rest <;> rfl
  | cons character opening ih => simpa [afterOpening?] using ih

theorem target?_eq_none {reference : String} (plain : ¬ opening <+: reference.toList) :
    target? reference = none := by
  rw [Option.eq_none_iff_forall_ne_some]
  intro target split
  exact plain ⟨target, (eq_append_of_afterOpening? split).symm⟩

theorem target?_text (reference : PluginReference) :
    target? reference.text = some (reference.plugin.toList ++ '/' :: reference.config.toList) := by
  rw [target?, text, String.toList_ofList, afterOpening?_append]

theorem ofTarget?_of_notMem {reference : PluginReference}
    (whole : '/' ∉ reference.plugin.toList) :
    ofTarget? (reference.plugin.toList ++ '/' :: reference.config.toList) = some reference := by
  have skips : ∀ character ∈ reference.plugin.toList, (character != '/') = true := by
    intro character member
    simpa using fun same : character = '/' => whole (same ▸ member)
  rw [ofTarget?, List.dropWhile_append_of_pos skips, List.takeWhile_append_of_pos skips]
  simp

theorem notMem_plugin_of_ofTarget? {target : List Char} {reference : PluginReference}
    (parse : ofTarget? target = some reference) : '/' ∉ reference.plugin.toList := by
  unfold ofTarget? at parse
  split at parse
  · cases parse
  · cases parse
    intro member
    simp only [String.toList_ofList] at member
    simpa using List.mem_takeWhile_imp member

theorem opening_isPrefix_text (reference : PluginReference) :
    opening <+: reference.text.toList := by
  rw [text, String.toList_ofList]
  exact List.prefix_append opening _

theorem not_isName_text (reference : PluginReference) : ¬ Preset.IsName reference.text := by
  intro named
  have opens := reference.opening_isPrefix_text
  simp only [Preset.IsName, List.mem_cons, List.not_mem_nil, or_false] at named
  rcases named with same | same | same | same <;> rw [same] at opens <;> revert opens <;> decide

theorem text_injective {first second : PluginReference} (firstWhole : '/' ∉ first.plugin.toList)
    (secondWhole : '/' ∉ second.plugin.toList) (same : first.text = second.text) :
    first = second := by
  have target := first.target?_text
  rw [same, second.target?_text, Option.some.injEq] at target
  have parse := ofTarget?_of_notMem firstWhole
  rw [← target, ofTarget?_of_notMem secondWhole] at parse
  exact (Option.some.inj parse).symm

end PluginReference

/-! ## References -/

namespace Target

/--
What a reference that is not a preset stands for, and the plugin whose configuration
it is, if any.  The name of a plugin ends at the first slash, and sources are not asked
for what begins like a reference to a plugin.
-/
inductive Provides (registry : Registry) (sources : Sources) :
    String → Option String → Source → Prop
  | config {plugin config : String} {value : Value} (whole : '/' ∉ plugin.toList)
      (found : config? registry ⟨plugin, config⟩ = some value) :
      Provides registry sources (PluginReference.text ⟨plugin, config⟩) (some plugin)
        (.value value)
  | source {reference : String} {source : Source} (other : ¬ Preset.IsName reference)
      (plain : ¬ PluginReference.opening <+: reference.toList)
      (found : sources.load? reference = some source) :
      Provides registry sources reference none source

/-- A reference for which there is a document or a preset. -/
def IsKnown (registry : Registry) (sources : Sources) (reference : String) : Prop :=
  Preset.IsName reference ∨ ∃ plugin source, Provides registry sources reference plugin source

def kindOf : Option String → LayerKind
  | some _ => .pluginCatalog
  | none => .inherited

variable {registry : Registry} {sources : Sources} {layer reference : String}

theorem Provides.not_isName {plugin : Option String} {source : Source}
    (provided : Provides registry sources reference plugin source) :
    ¬ Preset.IsName reference := by
  cases provided with
  | config => exact PluginReference.not_isName_text _
  | source other => exact other

theorem Provides.unique {plugin other : Option String} {source second : Source}
    (provided : Provides registry sources reference plugin source)
    (again : Provides registry sources reference other second) :
    plugin = other ∧ source = second := by
  cases provided with
  | @config owner config value whole found =>
      generalize text : PluginReference.text ⟨owner, config⟩ = reference at again
      cases again with
      | @config secondOwner secondConfig secondValue secondWhole secondFound =>
          have same := PluginReference.text_injective whole secondWhole text
          rw [same, secondFound] at found
          cases same
          cases found
          exact ⟨rfl, rfl⟩
      | source _ plain _ =>
          rw [← text] at plain
          exact absurd (PluginReference.opening_isPrefix_text _) plain
  | source _ plain found =>
      cases again with
      | config => exact absurd (PluginReference.opening_isPrefix_text _) plain
      | source _ _ secondFound =>
          rw [found, Option.some.injEq] at secondFound
          exact ⟨rfl, secondFound⟩

theorem find_of_preset {preset : Layer} (found : Preset.find? registry reference = some preset) :
    find registry sources layer reference = .ok (.preset preset) := by
  rw [find, found]

theorem find_of_provides {plugin : Option String} {source : Source}
    (provided : Provides registry sources reference plugin source) :
    find registry sources layer reference =
      ofSource reference (kindOf plugin) plugin source := by
  cases provided with
  | @config owner config value whole found =>
      have other := Preset.find?_of_not_isName (PluginReference.not_isName_text ⟨owner, config⟩)
        registry
      have parse := PluginReference.ofTarget?_of_notMem
        (show '/' ∉ (PluginReference.mk owner config).plugin.toList from whole)
      simp only [find, other, PluginReference.target?_text, parse, found]
      rfl
  | source other plain found =>
      simp only [find, Preset.find?_of_not_isName other, PluginReference.target?_eq_none plain,
        found]
      rfl

theorem find_of_not_isKnown (unknown : ¬ IsKnown registry sources reference) :
    find registry sources layer reference = .error ⟨layer, .unresolvedExtends reference⟩ := by
  rw [IsKnown, not_or, not_exists] at unknown
  obtain ⟨other, missing⟩ := unknown
  rw [find, Preset.find?_of_not_isName other]
  simp only
  split
  · rename_i target isPlugin
    split
    · rfl
    · rename_i parsed parse
      split
      · rfl
      · rename_i config found
        have provided : Provides registry sources reference (some parsed.plugin)
            (.value config) := by
          rw [PluginReference.text_of_target? isPlugin parse]
          exact .config (PluginReference.notMem_plugin_of_ofTarget? parse) found
        exact absurd ⟨_, provided⟩ (missing _)
  · rename_i isPlain
    split
    · rfl
    · rename_i source found
      have plain : ¬ PluginReference.opening <+: reference.toList := by
        rintro ⟨rest, whole⟩
        rw [PluginReference.target?, ← whole, PluginReference.afterOpening?_append] at isPlain
        cases isPlain
      exact absurd ⟨_, .source other plain found⟩ (missing _)

theorem find_cases (registry : Registry) (sources : Sources) (layer reference : String) :
    (∃ preset, Preset.find? registry reference = some preset ∧
        find registry sources layer reference = .ok (.preset preset)) ∨
      (∃ plugin source, Provides registry sources reference plugin source ∧
        find registry sources layer reference =
          ofSource reference (kindOf plugin) plugin source) ∨
      ¬ IsKnown registry sources reference ∧
        find registry sources layer reference =
          .error ⟨layer, .unresolvedExtends reference⟩ := by
  by_cases known : IsKnown registry sources reference
  · rcases known with named | ⟨plugin, source, provided⟩
    · obtain ⟨preset, found⟩ := Preset.find?_of_isName named registry
      exact .inl ⟨preset, found, find_of_preset found⟩
    · exact .inr (.inl ⟨plugin, source, provided, find_of_provides provided⟩)
  · exact .inr (.inr ⟨known, find_of_not_isKnown known⟩)

end Target

end ScriptLint
