import Mathlib.Data.List.Perm.Subperm
import ScriptLint.Proofs.Cascade.Blocks
import ScriptLint.Proofs.Cascade.Document
import ScriptLint.Proofs.Cascade.Reference

/-!
# Paths of references

A path leads from the root over references to a document.  Expansion succeeds just if
on every path all references are known, all documents parse and pass their check, and
no name repeats.  Presets are ends: they are on no path, and a root may have the name
of a preset that it extends.  The chain of a reported cycle is a path without
repetition and one more reference, to a name on it.
-/

namespace ScriptLint

/-! ## Layers of extended documents -/

theorem Extension.layer_error {registry : Registry} {reference : String}
    {extension : Extension} {error : ConfigError}
    (failed : extension.layer registry reference = .error error) :
    error.fault.isOfDocument = true :=
  Layer.ofDocument_error (Extension.layer_eq_error_iff.mp failed)

theorem Target.ofSource_of_parsed {reference : String} {kind : LayerKind}
    {plugin : Option String} {source : Source} {document : PolicyDocument}
    (parsed : source.document = .ok document) :
    ofSource reference kind plugin source = .ok (.document ⟨kind, plugin, document⟩) := by
  simp [ofSource, Source.parse, parsed]

theorem Target.find_of_parsed {registry : Registry} {sources : Sources}
    {reference : String} {plugin : Option String} {source : Source} {document : PolicyDocument}
    (provided : Provides registry sources reference plugin source)
    (parsed : source.document = .ok document) (layer : String) :
    find registry sources layer reference = .ok (.document ⟨kindOf plugin, plugin, document⟩) := by
  rw [find_of_provides provided, ofSource_of_parsed parsed]

theorem Target.ofSource_of_unparsed {reference : String} {kind : LayerKind}
    {plugin : Option String} {source : Source} {cause : ParseFault}
    (unparsed : source.document = .error cause) :
    ofSource reference kind plugin source = .error ⟨reference, .parse cause⟩ := by
  simp [ofSource, Source.parse, unparsed]

namespace Expansion

variable {registry : Registry} {sources : Sources}

/-! ## Paths -/

/--
The names on the way from a document back to the root, the document's own first, and
the document.
-/
inductive Path (registry : Registry) (sources : Sources) (name : String)
    (document : PolicyDocument) : List String → PolicyDocument → Prop
  | root : Path registry sources name document [name] document
  | extend {names : List String} {current extended : PolicyDocument} {reference : String}
      {plugin : Option String} {source : Source}
      (before : Path registry sources name document names current)
      (listed : reference ∈ current.references)
      (provided : Target.Provides registry sources reference plugin source)
      (parsed : source.document = .ok extended) :
      Path registry sources name document (reference :: names) extended

theorem Path.names_eq {name : String} {document current : PolicyDocument} {names : List String}
    (path : Path registry sources name document names current) :
    ∃ visited, names = visited ++ [name] ∧
      ∀ reference ∈ visited, reference ∈ Target.references registry sources := by
  induction path with
  | root => exact ⟨[], rfl, by simp⟩
  | @extend names current extended reference plugin source _ _ provided parsed ih =>
      obtain ⟨visited, rfl, known⟩ := ih
      refine ⟨reference :: visited, rfl, ?_⟩
      intro other member
      rcases List.mem_cons.mp member with rfl | inVisited
      · exact Target.mem_references (Target.find_of_parsed provided parsed name)
      · exact known other inVisited

theorem Path.length_le {name : String} {document current : PolicyDocument} {names : List String}
    (path : Path registry sources name document names current) (distinct : names.Nodup) :
    names.length ≤ (Target.references registry sources).length + 1 := by
  obtain ⟨visited, rfl, known⟩ := path.names_eq
  have visitedDistinct : visited.Nodup := (List.nodup_append.mp distinct).1
  simpa using (visitedDistinct.subperm known).length_le

/-! ## What a successful expansion does -/

/-- The layers of references of a document, where names are those on the path to it. -/
inductive Expands (registry : Registry) (sources : Sources) :
    List String → List String → List Layer → Prop
  | nil {names : List String} : Expands registry sources names [] []
  | preset {names rest : List String} {reference : String} {layer : Layer}
      {following : List Layer} (found : Preset.find? registry reference = some layer)
      (others : Expands registry sources names rest following) :
      Expands registry sources names (reference :: rest) (layer :: following)
  | document {names rest : List String} {reference : String} {plugin : Option String}
      {source : Source} {extended : PolicyDocument} {inherited following : List Layer}
      {own : Layer} (provided : Target.Provides registry sources reference plugin source)
      (parsed : source.document = .ok extended) (fresh : reference ∉ names)
      (below : Expands registry sources (reference :: names) extended.references inherited)
      (passed : Layer.ofDocument registry reference (Target.kindOf plugin) extended = .ok own)
      (others : Expands registry sources names rest following) :
      Expands registry sources names (reference :: rest)
        (inherited ++ own.declaring plugin :: following)

theorem find_ok_cases {layer reference : String} {target : Target}
    (found : Target.find registry sources layer reference = .ok target) :
    (∃ preset, Preset.find? registry reference = some preset ∧ target = .preset preset) ∨
      ∃ plugin source extended, Target.Provides registry sources reference plugin source ∧
        source.document = .ok extended ∧
        target = .document ⟨Target.kindOf plugin, plugin, extended⟩ := by
  rcases Target.find_cases registry sources layer reference with
    ⟨preset, isPreset, same⟩ | ⟨plugin, source, provided, same⟩ | ⟨-, same⟩
  · rw [found, Except.ok.injEq] at same
    exact .inl ⟨preset, isPreset, same⟩
  · rw [found] at same
    cases parsed : source.document with
    | error cause => simp [Target.ofSource_of_unparsed parsed] at same
    | ok extended =>
        rw [Target.ofSource_of_parsed parsed, Except.ok.injEq] at same
        exact .inr ⟨plugin, source, extended, provided, parsed, same⟩
  · simp [found] at same

theorem find_error {layer reference : String} {error : ConfigError}
    (failed : Target.find registry sources layer reference = .error error) :
    (¬ Target.IsKnown registry sources reference ∧
        error = ⟨layer, .unresolvedExtends reference⟩) ∨
      ∃ plugin source cause, Target.Provides registry sources reference plugin source ∧
        source.document = .error cause ∧ error = ⟨reference, .parse cause⟩ := by
  rcases Target.find_cases registry sources layer reference with
    ⟨preset, -, same⟩ | ⟨plugin, source, provided, same⟩ | ⟨unknown, same⟩
  · simp [failed] at same
  · rw [failed] at same
    cases parsed : source.document with
    | error cause =>
        rw [Target.ofSource_of_unparsed parsed, Except.error.injEq] at same
        exact .inr ⟨plugin, source, cause, provided, parsed, same⟩
    | ok extended => simp [Target.ofSource_of_parsed parsed] at same
  · rw [failed, Except.error.injEq] at same
    exact .inl ⟨unknown, same⟩

theorem expands_of_ok {name : String} {path references : List String} {layers : List Layer}
    (expanded : ofReferences registry sources name path references = .ok layers) :
    Expands registry sources (name :: path) references layers := by
  fun_induction ofReferences registry sources name path references generalizing layers with
  | case1 =>
      cases expanded
      exact .nil
  | case2 => cases expanded
  | case3 => cases expanded
  | case4 name path reference rest layer found following isRest ih =>
      cases expanded
      rcases find_ok_cases found with ⟨preset, isPreset, same⟩ | ⟨_, _, _, -, -, same⟩
      · cases same
        exact .preset isPreset (ih isRest)
      · cases same
  | case5 => cases expanded
  | case6 => cases expanded
  | case7 => cases expanded
  | case8 => cases expanded
  | case9 name path reference rest extension found fresh inherited isBelow layer isOwn following
      isRest ihBelow ihRest =>
      cases expanded
      rcases find_ok_cases found with
        ⟨_, -, same⟩ | ⟨plugin, source, extended, provided, parsed, same⟩
      · cases same
      · cases same
        obtain ⟨own, passed, rfl⟩ := Extension.layer_eq_ok_iff.mp isOwn
        exact .document provided parsed fresh (ihBelow isBelow) passed (ihRest isRest)

theorem ok_of_expands {names references : List String} {layers : List Layer}
    (expands : Expands registry sources names references layers) {name : String}
    {path : List String} (whole : names = name :: path) :
    ofReferences registry sources name path references = .ok layers := by
  induction expands generalizing name path with
  | nil => rw [ofReferences]
  | @preset names rest reference layer following found _ ih =>
      subst whole
      have target : Target.find registry sources name reference = .ok (.preset layer) :=
        Target.find_of_preset found
      rw [ofReferences]
      split <;> rename_i same <;> rw [target] at same <;> cases same
      rw [ih rfl]
  | @document names rest reference plugin source extended inherited following own provided parsed
      fresh _ passed _ ihBelow ihRest =>
      subst whole
      have target : Target.find registry sources name reference =
          .ok (.document ⟨Target.kindOf plugin, plugin, extended⟩) :=
        Target.find_of_parsed provided parsed name
      have isOwn : Extension.layer registry reference ⟨Target.kindOf plugin, plugin, extended⟩ =
          .ok (own.declaring plugin) :=
        Extension.layer_eq_ok_iff.mpr ⟨own, passed, rfl⟩
      rw [ofReferences]
      split <;> rename_i same <;> rw [target] at same <;> cases same
      rw [dif_neg fresh, ihBelow rfl, isOwn, ihRest rfl]

theorem Expands.isKnown {names references : List String} {layers : List Layer}
    (expands : Expands registry sources names references layers) {reference : String}
    (listed : reference ∈ references) : Target.IsKnown registry sources reference := by
  induction expands with
  | nil => cases listed
  | preset found _ ih =>
      rcases List.mem_cons.mp listed with rfl | inRest
      · exact .inl (Preset.isName_of_find? found)
      · exact ih inRest
  | document provided _ _ _ _ _ _ ihRest =>
      rcases List.mem_cons.mp listed with rfl | inRest
      · exact .inr ⟨_, _, provided⟩
      · exact ihRest inRest

theorem Expands.of_provides {names references : List String} {layers : List Layer}
    (expands : Expands registry sources names references layers) {reference : String}
    {plugin : Option String} {source : Source} (listed : reference ∈ references)
    (provided : Target.Provides registry sources reference plugin source) :
    ∃ extended inherited own before after, source.document = .ok extended ∧ reference ∉ names ∧
      Expands registry sources (reference :: names) extended.references inherited ∧
      Layer.ofDocument registry reference (Target.kindOf plugin) extended = .ok own ∧
      layers = before ++ inherited ++ own.declaring plugin :: after := by
  induction expands with
  | nil => cases listed
  | @preset names rest first layer following found _ ih =>
      rcases List.mem_cons.mp listed with rfl | inRest
      · exact absurd (Preset.isName_of_find? found) provided.not_isName
      · obtain ⟨extended, inherited, own, before, after, parsed, fresh, below, passed, rfl⟩ :=
          ih inRest
        exact ⟨extended, inherited, own, layer :: before, after, parsed, fresh, below, passed, rfl⟩
  | @document names rest first owner found extended inherited following own isProvided parsed
      fresh below passed _ _ ihRest =>
      rcases List.mem_cons.mp listed with rfl | inRest
      · obtain ⟨rfl, rfl⟩ := isProvided.unique provided
        exact ⟨extended, inherited, own, [], following, parsed, fresh, below, passed, rfl⟩
      · obtain ⟨later, inheritedLater, ownLater, before, after, parsed, fresh, below, passed,
          rfl⟩ := ihRest inRest
        exact ⟨later, inheritedLater, ownLater, inherited ++ own.declaring owner :: before, after,
          parsed, fresh, below, passed, by simp⟩

theorem expand_eq_ok_iff {name : String} {document : PolicyDocument} {layers : List Layer} :
    Layer.expand registry sources name document = .ok layers ↔
      ∃ inherited own, ofReferences registry sources name [] document.references = .ok inherited ∧
        Layer.ofDocument registry name .localOverride document = .ok own ∧
        inherited ++ [own] = layers := by
  rw [Layer.expand_eq]
  cases ofReferences registry sources name [] document.references with
  | error error => simp
  | ok inherited =>
      cases Layer.ofDocument registry name .localOverride document <;> simp

theorem Path.expanded {name : String} {document current : PolicyDocument} {names : List String}
    {layers : List Layer} (succeeds : Layer.expand registry sources name document = .ok layers)
    (path : Path registry sources name document names current) :
    names.Nodup ∧ ∃ ownName kind own plugin inherited before after,
      names.head? = some ownName ∧ Layer.ofDocument registry ownName kind current = .ok own ∧
      Expands registry sources names current.references inherited ∧
      layers = before ++ inherited ++ own.declaring plugin :: after := by
  induction path with
  | root =>
      obtain ⟨inherited, own, isInherited, passed, rfl⟩ := expand_eq_ok_iff.mp succeeds
      exact ⟨by simp, name, .localOverride, own, none, inherited, [], [], rfl, passed,
        expands_of_ok isInherited, rfl⟩
  | @extend names current extended reference plugin source _ listed provided parsed ih =>
      obtain ⟨distinct, _, _, upper, owner, inherited, before, after, -, -, expands, rfl⟩ := ih
      obtain ⟨found, below, own, early, late, isFound, fresh, expandsBelow, passed, rfl⟩ :=
        expands.of_provides listed provided
      obtain rfl : found = extended := by
        rw [isFound, Except.ok.injEq] at parsed
        exact parsed
      exact ⟨List.nodup_cons.mpr ⟨fresh, distinct⟩, reference, _, own, plugin, below,
        before ++ early, late ++ upper.declaring owner :: after, rfl, passed, expandsBelow,
        by simp⟩

/-! ## When an expansion succeeds -/

/-- Nothing on any path from the root stands in the way of its expansion. -/
structure Expandable (registry : Registry) (sources : Sources) (name : String)
    (document : PolicyDocument) : Prop where
  known : ∀ names current, Path registry sources name document names current →
    ∀ reference ∈ current.references, Target.IsKnown registry sources reference
  parses : ∀ names current, Path registry sources name document names current →
    ∀ reference ∈ current.references, ∀ plugin source,
      Target.Provides registry sources reference plugin source →
        ∃ extended, source.document = .ok extended
  passes : ∀ names current, Path registry sources name document names current →
    current.Passes registry
  distinct : ∀ names current, Path registry sources name document names current → names.Nodup

theorem expandable_of_ok {name : String} {document : PolicyDocument} {layers : List Layer}
    (succeeds : Layer.expand registry sources name document = .ok layers) :
    Expandable registry sources name document where
  known names current path reference listed := by
    obtain ⟨-, _, _, _, _, _, _, _, -, -, expands, -⟩ := path.expanded succeeds
    exact expands.isKnown listed
  parses names current path reference listed plugin source provided := by
    obtain ⟨-, _, _, _, _, _, _, _, -, -, expands, -⟩ := path.expanded succeeds
    obtain ⟨extended, _, _, _, _, parsed, -⟩ := expands.of_provides listed provided
    exact ⟨extended, parsed⟩
  passes names current path := by
    obtain ⟨-, _, _, _, _, _, _, _, -, passed, -⟩ := path.expanded succeeds
    exact PolicyDocument.passes_of_ok passed
  distinct names current path := (path.expanded succeeds).1

-- The induction follows the recursion of the expansion; what carries it is that the names
-- in hand are those of a path, on which nothing is wrong.
theorem Expandable.ofReferences_ok {root : String} {document : PolicyDocument}
    (expandable : Expandable registry sources root document) {name : String}
    {path references : List String} {current : PolicyDocument}
    (reached : Path registry sources root document (name :: path) current)
    (listed : references ⊆ current.references) :
    ∃ layers, ofReferences registry sources name path references = .ok layers := by
  fun_induction ofReferences registry sources name path references generalizing current with
  | case1 => exact ⟨[], rfl⟩
  | case2 name path reference rest error failed =>
      have isListed : reference ∈ current.references := listed List.mem_cons_self
      rcases find_error failed with ⟨unknown, -⟩ | ⟨plugin, source, cause, provided, unparsed, -⟩
      · exact absurd (expandable.known _ _ reached reference isListed) unknown
      · obtain ⟨extended, parsed⟩ :=
          expandable.parses _ _ reached reference isListed plugin source provided
        simp [parsed] at unparsed
  | case3 name path reference rest layer found error failed ih =>
      obtain ⟨layers, succeeds⟩ := ih reached (List.subset_of_cons_subset listed)
      simp [succeeds] at failed
  | case4 => exact ⟨_, rfl⟩
  | case5 name path reference rest extension found repeated =>
      rcases find_ok_cases found with ⟨_, -, same⟩ | ⟨_, _, _, provided, parsed, -⟩
      · cases same
      · have distinct := expandable.distinct _ _
          (reached.extend (listed List.mem_cons_self) provided parsed)
        exact absurd repeated (List.nodup_cons.mp distinct).1
  | case6 name path reference rest extension found fresh error failed ih =>
      rcases find_ok_cases found with ⟨_, -, same⟩ | ⟨_, _, _, provided, parsed, same⟩
      · cases same
      · cases same
        obtain ⟨layers, succeeds⟩ :=
          ih (reached.extend (listed List.mem_cons_self) provided parsed) (List.Subset.refl _)
        simp [succeeds] at failed
  | case7 name path reference rest extension found fresh inherited isBelow error failed ih =>
      rcases find_ok_cases found with ⟨_, -, same⟩ | ⟨plugin, _, _, provided, parsed, same⟩
      · cases same
      · cases same
        have passes := expandable.passes _ _
          (reached.extend (listed List.mem_cons_self) provided parsed)
        obtain ⟨own, passed⟩ := passes reference (Target.kindOf plugin)
        rw [Extension.layer_eq_ok_iff.mpr ⟨own, passed, rfl⟩] at failed
        cases failed
  | case8 name path reference rest extension found fresh inherited isBelow layer isOwn error
      failed ihBelow ihRest =>
      obtain ⟨layers, succeeds⟩ := ihRest reached (List.subset_of_cons_subset listed)
      simp [succeeds] at failed
  | case9 => exact ⟨_, rfl⟩

theorem expand_ok_iff (registry : Registry) (sources : Sources) (name : String)
    (document : PolicyDocument) :
    (∃ layers, Layer.expand registry sources name document = .ok layers) ↔
      Expandable registry sources name document := by
  constructor
  · rintro ⟨layers, succeeds⟩
    exact expandable_of_ok succeeds
  · intro expandable
    obtain ⟨inherited, isInherited⟩ :=
      expandable.ofReferences_ok .root (List.Subset.refl document.references)
    obtain ⟨own, passed⟩ := expandable.passes _ _ .root name .localOverride
    exact ⟨_, expand_eq_ok_iff.mpr ⟨inherited, own, isInherited, passed, rfl⟩⟩

/-! ## Cycles -/

/--
A chain of names from the root is a path without repetition, followed by a reference of
the document at its end to a name on it; the layer is the one of that document.
-/
def IsCycle (registry : Registry) (sources : Sources) (name : String)
    (document : PolicyDocument) (layer : String) (chain : List String) : Prop :=
  ∃ names current last, chain = names.reverse ++ [last] ∧
    Path registry sources name document names current ∧ names.Nodup ∧
    names.getLast? = some name ∧ names.head? = some layer ∧
    last ∈ current.references ∧ last ∈ names

theorem isCycle_of_error {root : String} {document : PolicyDocument} {name layer : String}
    {path references chain : List String} {current : PolicyDocument}
    (reached : Path registry sources root document (name :: path) current)
    (distinct : (name :: path).Nodup) (listed : references ⊆ current.references)
    (failed : ofReferences registry sources name path references =
      .error ⟨layer, .extendsCycle chain⟩) :
    IsCycle registry sources root document layer chain := by
  fun_induction ofReferences registry sources name path references generalizing current with
  | case1 => cases failed
  | case2 name path reference rest error notFound =>
      cases failed
      rcases find_error notFound with ⟨-, same⟩ | ⟨_, _, _, -, -, same⟩ <;> cases same
  | case3 name path reference rest layer found error isRest ih =>
      cases failed
      exact ih reached distinct (List.subset_of_cons_subset listed) isRest
  | case4 => cases failed
  | case5 name path reference rest extension found repeated =>
      cases failed
      obtain ⟨visited, whole, -⟩ := reached.names_eq
      refine ⟨_, current, reference, List.reverse_cons, reached, distinct, ?_, rfl,
        listed List.mem_cons_self, repeated⟩
      rw [whole, List.getLast?_append]
      rfl
  | case6 name path reference rest extension found fresh error isBelow ih =>
      cases failed
      rcases find_ok_cases found with ⟨_, -, same⟩ | ⟨_, _, _, provided, parsed, same⟩
      · cases same
      · cases same
        exact ih (reached.extend (listed List.mem_cons_self) provided parsed)
          (List.nodup_cons.mpr ⟨fresh, distinct⟩) (List.Subset.refl _) isBelow
  | case7 name path reference rest extension found fresh inherited isBelow error isOwn ih =>
      cases failed
      exact absurd (Extension.layer_error isOwn) (by simp [ConfigFault.isOfDocument])
  | case8 name path reference rest extension found fresh inherited isBelow own isOwn error isRest
      ihBelow ihRest =>
      cases failed
      exact ihRest reached distinct (List.subset_of_cons_subset listed) isRest
  | case9 => cases failed

theorem isCycle_of_expand_error {name layer : String} {document : PolicyDocument}
    {chain : List String}
    (failed : Layer.expand registry sources name document =
      .error ⟨layer, .extendsCycle chain⟩) :
    IsCycle registry sources name document layer chain := by
  rw [Layer.expand_eq] at failed
  split at failed
  · rename_i error isError
    cases failed
    exact isCycle_of_error .root (by simp) (List.Subset.refl _) isError
  · split at failed
    · rename_i error isError
      cases failed
      exact absurd (Layer.ofDocument_error isError) (by simp [ConfigFault.isOfDocument])
    · cases failed

/--
Expansion ends, since a path without repetition is no longer than there are documents.
It succeeds just if on every path each reference is a preset, a configuration of a
plugin or, unless it begins like one, a source, each document parses and passes, and no
name repeats.  A reported cycle is one.
-/
theorem expand_succeeds_iff_expandable (registry : Registry) (sources : Sources) (name : String)
    (document : PolicyDocument) :
    ((∃ layers, Layer.expand registry sources name document = .ok layers) ↔
        Expandable registry sources name document) ∧
      (∀ layer chain, Layer.expand registry sources name document =
          .error ⟨layer, .extendsCycle chain⟩ →
        IsCycle registry sources name document layer chain) ∧
      ∀ names current, Path registry sources name document names current → names.Nodup →
        names.length ≤ (Target.references registry sources).length + 1 :=
  ⟨expand_ok_iff registry sources name document, fun _ _ => isCycle_of_expand_error,
    fun _ _ path distinct => path.length_le distinct⟩

theorem expand_document_extending_itself :
    let document : PolicyDocument := { PolicyDocument.empty with extending := some (.one "base") }
    let sources : Sources :=
      .ofDictionary (.ofList [("base", .value (.object [("extends", .string "base")]))])
    Layer.expand .empty sources "base" document =
        .error ⟨"base", .extendsCycle ["base", "base"]⟩ ∧
      IsCycle .empty sources "base" document "base" ["base", "base"] := by
  intro document sources
  have failed : Layer.expand .empty sources "base" document =
      .error ⟨"base", .extendsCycle ["base", "base"]⟩ := by
    have listed : document.references = ["base"] := rfl
    rw [Layer.expand_eq, listed, ofReferences]
    rfl
  exact ⟨failed, (expand_succeeds_iff_expandable .empty sources "base" document).2.1 _ _ failed⟩

/--
Names of presets and of configurations are reserved.  A known source whose name
begins like a reference to a plugin cannot be extended, although it parses, passes and
extends nothing; and a root with the name of a preset can extend that preset.
-/
theorem expand_at_reserved_names :
    (let document : PolicyDocument :=
        { PolicyDocument.empty with extending := some (.one "plugin:house/strict") }
      let source : Source := .value (.object [])
      let sources : Sources := .ofDictionary (.ofList [("plugin:house/strict", source)])
      document.references = ["plugin:house/strict"] ∧ document.Passes .empty ∧
        sources.load? "plugin:house/strict" = some source ∧
        source.document = .ok .empty ∧ PolicyDocument.empty.references = [] ∧
        PolicyDocument.empty.Passes .empty ∧
        Layer.expand .empty sources "root" document =
          .error ⟨"root", .unresolvedExtends "plugin:house/strict"⟩) ∧
      (let document : PolicyDocument :=
        { PolicyDocument.empty with extending := some (.one "stylepolicy:all") }
      document.references = ["stylepolicy:all"] ∧
        ∃ layers, Layer.expand .empty ∅ "stylepolicy:all" document = .ok layers) := by
  constructor
  · intro document source sources
    have listed : document.references = ["plugin:house/strict"] := rfl
    refine ⟨listed, fun _ _ => ⟨_, rfl⟩, rfl, rfl, rfl, fun _ _ => ⟨_, rfl⟩, ?_⟩
    rw [Layer.expand_eq, listed, ofReferences]
    rfl
  · intro document
    have listed : document.references = ["stylepolicy:all"] := rfl
    refine ⟨listed, ?_⟩
    rw [Layer.expand_eq, listed, ofReferences, ofReferences]
    exact ⟨_, rfl⟩

end Expansion

end ScriptLint
