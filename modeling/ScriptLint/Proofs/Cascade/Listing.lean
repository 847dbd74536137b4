import Mathlib.Data.List.ModifyLast
import ScriptLint.Proofs.Cascade.Expansion

/-!
# Listings

The listing of a document is told by recursion over what it extends, without a path and
without regard to cycles: one block for each reference, in order, and the document's own
layer.  Where an expansion succeeds, it is the listing and the only one.  In it, all that
a document extends comes before the document, and a configuration declares its plugin in
its own layer and in none that it extends.
-/

namespace ScriptLint.Expansion

/-! ## Blocks of references -/

mutual

/-- The layers of a document: the blocks of what it extends, then its own. -/
inductive Lists (registry : Registry) (sources : Sources) :
    String → LayerKind → PolicyDocument → List Layer → Prop
  | document {name : String} {kind : LayerKind} {document : PolicyDocument}
      {inherited : List Layer} {own : Layer}
      (extended : ListsAll registry sources document.references inherited)
      (passed : Layer.ofDocument registry name kind document = .ok own) :
      Lists registry sources name kind document (inherited ++ [own])

inductive ListsAll (registry : Registry) (sources : Sources) :
    List String → List Layer → Prop
  | nil : ListsAll registry sources [] []
  | preset {reference : String} {rest : List String} {layer : Layer} {following : List Layer}
      (found : Preset.find? registry reference = some layer)
      (others : ListsAll registry sources rest following) :
      ListsAll registry sources (reference :: rest) ([layer] ++ following)
  | config {reference plugin : String} {rest : List String} {source : Source}
      {document : PolicyDocument} {block following : List Layer}
      (provided : Target.Provides registry sources reference (some plugin) source)
      (parsed : source.document = .ok document)
      (listed : Lists registry sources reference .pluginCatalog document block)
      (others : ListsAll registry sources rest following) :
      ListsAll registry sources (reference :: rest)
        (block.modifyLast (·.declaring (some plugin)) ++ following)
  | source {reference : String} {rest : List String} {source : Source}
      {document : PolicyDocument} {block following : List Layer}
      (provided : Target.Provides registry sources reference none source)
      (parsed : source.document = .ok document)
      (listed : Lists registry sources reference .inherited document block)
      (others : ListsAll registry sources rest following) :
      ListsAll registry sources (reference :: rest) (block ++ following)

end

variable {registry : Registry} {sources : Sources}

theorem lists_iff {name : String} {kind : LayerKind} {document : PolicyDocument}
    {layers : List Layer} :
    Lists registry sources name kind document layers ↔
      ∃ inherited own, ListsAll registry sources document.references inherited ∧
        Layer.ofDocument registry name kind document = .ok own ∧ inherited ++ [own] = layers := by
  constructor
  · rintro ⟨extended, passed⟩
    exact ⟨_, _, extended, passed, rfl⟩
  · rintro ⟨inherited, own, extended, passed, rfl⟩
    exact .document extended passed

theorem listsAll_document {reference : String} {rest : List String} {plugin : Option String}
    {source : Source} {document : PolicyDocument} {inherited following : List Layer} {own : Layer}
    (provided : Target.Provides registry sources reference plugin source)
    (parsed : source.document = .ok document)
    (extended : ListsAll registry sources document.references inherited)
    (passed : Layer.ofDocument registry reference (Target.kindOf plugin) document = .ok own)
    (others : ListsAll registry sources rest following) :
    ListsAll registry sources (reference :: rest)
      (inherited ++ own.declaring plugin :: following) := by
  have regroup : inherited ++ own.declaring plugin :: following =
      inherited ++ [own.declaring plugin] ++ following := by simp
  rw [regroup]
  cases plugin with
  | some plugin =>
      rw [← List.modifyLast_concat fun layer : Layer => layer.declaring (some plugin)]
      exact .config provided parsed (.document extended passed) others
  | none => exact .source provided parsed (.document extended passed) others

theorem listsAll_document_cases {reference : String} {rest : List String}
    {plugin : Option String} {source : Source} {layers : List Layer}
    (provided : Target.Provides registry sources reference plugin source)
    (listed : ListsAll registry sources (reference :: rest) layers) :
    ∃ document inherited own following, source.document = .ok document ∧
      ListsAll registry sources document.references inherited ∧
      Layer.ofDocument registry reference (Target.kindOf plugin) document = .ok own ∧
      ListsAll registry sources rest following ∧
      layers = inherited ++ own.declaring plugin :: following := by
  cases listed with
  | preset found => exact absurd (Preset.isName_of_find? found) provided.not_isName
  | config isConfig parsed block others =>
      obtain ⟨rfl, rfl⟩ := isConfig.unique provided
      obtain ⟨inherited, own, extended, passed, rfl⟩ := lists_iff.mp block
      refine ⟨_, inherited, own, _, parsed, extended, passed, others, ?_⟩
      rw [List.modifyLast_concat]
      simp
  | source isSource parsed block others =>
      obtain ⟨rfl, rfl⟩ := isSource.unique provided
      obtain ⟨inherited, own, extended, passed, rfl⟩ := lists_iff.mp block
      exact ⟨_, inherited, own, _, parsed, extended, passed, others, by simp [Layer.declaring]⟩

/-! ## Expansions are listings -/

theorem Expands.listsAll {names references : List String} {layers : List Layer}
    (expands : Expands registry sources names references layers) :
    ListsAll registry sources references layers := by
  induction expands with
  | nil => exact .nil
  | preset found _ ih => exact .preset found ih
  | document provided parsed _ _ passed _ ihBelow ihRest =>
      exact listsAll_document provided parsed ihBelow passed ihRest

theorem Expands.eq_of_listsAll {names references : List String} {layers other : List Layer}
    (expands : Expands registry sources names references layers)
    (listed : ListsAll registry sources references other) : other = layers := by
  induction expands generalizing other with
  | nil =>
      cases listed
      rfl
  | preset found _ ih =>
      cases listed with
      | preset alsoFound others =>
          cases found.symm.trans alsoFound
          rw [ih others]
          rfl
      | config provided =>
          exact absurd (Preset.isName_of_find? found) provided.not_isName
      | source provided =>
          exact absurd (Preset.isName_of_find? found) provided.not_isName
  | document provided parsed _ _ passed _ ihBelow ihRest =>
      obtain ⟨document, inherited, own, following, alsoParsed, extended, alsoPassed, others, rfl⟩ :=
        listsAll_document_cases provided listed
      cases parsed.symm.trans alsoParsed
      cases passed.symm.trans alsoPassed
      rw [ihBelow extended, ihRest others]

theorem lists_iff_of_expand {name : String} {document : PolicyDocument} {layers : List Layer}
    (succeeds : Layer.expand registry sources name document = .ok layers)
    (listed : List Layer) :
    Lists registry sources name .localOverride document listed ↔ listed = layers := by
  obtain ⟨inherited, own, isInherited, passed, rfl⟩ := expand_eq_ok_iff.mp succeeds
  have expands := expands_of_ok isInherited
  rw [lists_iff]
  constructor
  · rintro ⟨other, alsoOwn, extended, alsoPassed, rfl⟩
    cases passed.symm.trans alsoPassed
    rw [expands.eq_of_listsAll extended]
  · rintro rfl
    exact ⟨inherited, own, expands.listsAll, passed, rfl⟩

/-! ## Positions in a listing -/

theorem Expands.block_of_mem {names references : List String} {layers : List Layer}
    (expands : Expands registry sources names references layers) {reference : String}
    (listed : reference ∈ references) :
    ∃ before block after, layers = before ++ block ++ after ∧
      ListsAll registry sources [reference] block := by
  induction expands with
  | nil => cases listed
  | @preset _ _ first layer following found _ ih =>
      rcases List.mem_cons.mp listed with rfl | inRest
      · exact ⟨[], [layer], following, rfl, .preset found .nil⟩
      · obtain ⟨before, block, after, rfl, isBlock⟩ := ih inRest
        exact ⟨layer :: before, block, after, rfl, isBlock⟩
  | @document _ _ first plugin _ _ inherited following own provided parsed _ below passed _ _ ih =>
      rcases List.mem_cons.mp listed with rfl | inRest
      · exact ⟨[], inherited ++ [own.declaring plugin], following, by simp,
          listsAll_document provided parsed below.listsAll passed .nil⟩
      · obtain ⟨before, block, after, rfl, isBlock⟩ := ih inRest
        exact ⟨inherited ++ own.declaring plugin :: before, block, after, by simp, isBlock⟩

/--
What an expansion comes to is the listing of the root and ends with the root's layer.
The block of every reference stands before the layer of the document that has the
reference, on all paths.  The block of a configuration is what the configuration extends,
as it is listed by itself, and the one layer in which the plugin is declared.
-/
theorem expand_lists_extended_first {name : String} {document : PolicyDocument}
    {layers : List Layer}
    (succeeds : Layer.expand registry sources name document = .ok layers) :
    (∀ listed, Lists registry sources name .localOverride document listed ↔ listed = layers) ∧
      (∃ own, Layer.ofDocument registry name .localOverride document = .ok own ∧
        layers.getLast? = some own) ∧
      (∀ names current, Path registry sources name document names current →
        ∀ reference ∈ current.references,
          ∃ ownName kind own plugin before block between after,
            names.head? = some ownName ∧
            Layer.ofDocument registry ownName kind current = .ok own ∧
            ListsAll registry sources [reference] block ∧
            layers = before ++ block ++ between ++ own.declaring plugin :: after) ∧
      ∀ reference plugin source extended block,
        Target.Provides registry sources reference (some plugin) source →
        source.document = .ok extended → ListsAll registry sources [reference] block →
          ∃ inherited own, ListsAll registry sources extended.references inherited ∧
            Layer.ofDocument registry reference .pluginCatalog extended = .ok own ∧
            block = inherited ++ [{ own with plugins := own.plugins.add plugin }] := by
  refine ⟨lists_iff_of_expand succeeds, ?_, ?_, ?_⟩
  · obtain ⟨inherited, own, -, passed, rfl⟩ := expand_eq_ok_iff.mp succeeds
    exact ⟨own, passed, by simp⟩
  · intro names current path reference listed
    obtain ⟨-, ownName, kind, own, plugin, inherited, before, after, isName, passed, expands,
      rfl⟩ := path.expanded succeeds
    obtain ⟨early, block, late, rfl, isBlock⟩ := expands.block_of_mem listed
    exact ⟨ownName, kind, own, plugin, before ++ early, block, late, after, isName, passed, isBlock,
      by simp⟩
  · intro reference plugin source extended block provided parsed listed
    obtain ⟨document, inherited, own, following, alsoParsed, isBelow, passed, others, rfl⟩ :=
      listsAll_document_cases provided listed
    cases parsed.symm.trans alsoParsed
    cases others
    exact ⟨inherited, own, isBelow, passed, rfl⟩

/-- A configuration that extends a source, and a root that extends both. -/
theorem expand_source_below_config :
    let registry : Registry :=
      { Registry.empty with
        plugins := (∅ : Dictionary (Dictionary Value)).insert "house"
          ((∅ : Dictionary Value).insert "strict" (.object [("extends", .string "base")])) }
    let sources : Sources := .ofDictionary (.ofList [("base", .value (.object []))])
    let document : PolicyDocument :=
      { PolicyDocument.empty with extending := some (.many ["plugin:house/strict", "base"]) }
    ∃ layers, Layer.expand registry sources "root" document = .ok layers ∧
      layers.map (fun layer => (layer.name, layer.plugins.keys)) =
        [("base", []), ("plugin:house/strict", ["house"]), ("base", []), ("root", [])] ∧
      Lists registry sources "root" .localOverride document layers := by
  intro registry sources document
  have base : Target.Provides registry sources "base" none (.value (.object [])) :=
    .source (by simp [Preset.IsName, Preset.recommended, Preset.all]) (by decide) rfl
  have strict : Target.Provides registry sources (PluginReference.text ⟨"house", "strict"⟩)
      (some "house") (.value (.object [("extends", .string "base")])) :=
    .config (by decide) rfl
  have expands : Expands registry sources ["root"]
      [PluginReference.text ⟨"house", "strict"⟩, "base"] _ :=
    .document strict rfl (by decide) (.document base rfl (by decide) .nil rfl .nil) rfl
      (.document base rfl (by decide) .nil rfl .nil)
  have succeeds : ∃ layers, Layer.expand registry sources "root" document = .ok layers ∧
      layers.map (fun layer => (layer.name, layer.plugins.keys)) =
        [("base", []), ("plugin:house/strict", ["house"]), ("base", []), ("root", [])] := by
    have listed : document.references = [PluginReference.text ⟨"house", "strict"⟩, "base"] := rfl
    rw [Layer.expand_eq, listed, ok_of_expands expands rfl]
    exact ⟨_, rfl, rfl⟩
  obtain ⟨layers, expanded, shown⟩ := succeeds
  exact ⟨layers, expanded, shown, ((expand_lists_extended_first expanded).1 layers).mpr rfl⟩

end ScriptLint.Expansion
