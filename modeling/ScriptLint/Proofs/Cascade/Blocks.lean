import ScriptLint.Cascade.Expansion

/-!
# Blocks of layers

An expansion adds layers to those in hand, and declares the plugin of a configuration by
the index at which the layers of the configuration begin.  The same layers are told
reference by reference: every reference has a block of its own, whatever is in hand, and
the plugin is declared in the last layer of the block.
-/

namespace ScriptLint

def Extension.layer (registry : Registry) (reference : String) (extension : Extension) :
    Except ConfigError Layer :=
  (Layer.ofDocument registry reference extension.kind extension.document).map
    (·.declaring extension.plugin)

theorem Extension.layer_eq_ok_iff {registry : Registry} {reference : String}
    {extension : Extension} {layer : Layer} :
    extension.layer registry reference = .ok layer ↔
      ∃ own, Layer.ofDocument registry reference extension.kind extension.document = .ok own ∧
        own.declaring extension.plugin = layer := by
  unfold Extension.layer
  cases Layer.ofDocument registry reference extension.kind extension.document <;> simp [Except.map]

theorem Extension.layer_eq_error_iff {registry : Registry} {reference : String}
    {extension : Extension} {error : ConfigError} :
    extension.layer registry reference = .error error ↔
      Layer.ofDocument registry reference extension.kind extension.document = .error error := by
  unfold Extension.layer
  cases Layer.ofDocument registry reference extension.kind extension.document <;> simp [Except.map]

namespace Expansion

def ofReferences (registry : Registry) (sources : Sources) (name : String)
    (path : List String) : List String → Except ConfigError (List Layer)
  | [] => .ok []
  | reference :: rest =>
      match _found : Target.find registry sources name reference with
      | .error error => .error error
      | .ok (.preset layer) =>
          match ofReferences registry sources name path rest with
          | .error error => .error error
          | .ok following => .ok (layer :: following)
      | .ok (.document extension) =>
          if _cycle : reference ∈ name :: path then
            .error ⟨name, .extendsCycle (reference :: name :: path).reverse⟩
          else
            match ofReferences registry sources reference (name :: path)
                extension.document.references with
            | .error error => .error error
            | .ok inherited =>
                match extension.layer registry reference with
                | .error error => .error error
                | .ok layer =>
                    match ofReferences registry sources name path rest with
                    | .error error => .error error
                    | .ok following => .ok (inherited ++ layer :: following)
termination_by references => (unvisited registry sources (name :: path), references.length)
decreasing_by
  · exact Prod.Lex.right _ (Nat.lt_succ_self _)
  · exact Prod.Lex.left _ _ (filter_notMem_cons_lt (Target.mem_references _found) _cycle)
  · exact Prod.Lex.right _ (Nat.lt_succ_self _)

/-- The index of the first layer of a block leads to the last one of the block. -/
theorem declareFrom_append (plugin : Option String) (layers inherited : List Layer)
    (own : Layer) :
    declareFrom layers.length plugin (layers ++ inherited ++ [own]) =
      layers ++ inherited ++ [own.declaring plugin] := by
  have last : (layers ++ inherited ++ [own]).length - 1 = (layers ++ inherited).length := by simp
  have within : layers.length < (layers ++ inherited ++ [own]).length := by
    simp only [List.length_append, List.length_singleton]
    omega
  rw [declareFrom, if_pos within, last, List.modify_eq_take_drop, List.take_left, List.drop_left]
  rfl

variable {registry : Registry} {sources : Sources}

theorem addReferences_cons (name : String) (path : List String) (layers : List Layer)
    (reference : String) (rest : List String) :
    addReferences registry sources name path layers (reference :: rest) =
      match Target.find registry sources name reference with
      | .error error => .error error
      | .ok (.preset layer) => addReferences registry sources name path (layers ++ [layer]) rest
      | .ok (.document extension) =>
          if reference ∈ name :: path then
            .error ⟨name, .extendsCycle (reference :: name :: path).reverse⟩
          else
            match addReferences registry sources reference (name :: path) layers
                extension.document.references with
            | .error error => .error error
            | .ok extended =>
                match Layer.ofDocument registry reference extension.kind extension.document with
                | .error error => .error error
                | .ok own =>
                    addReferences registry sources name path
                      (declareFrom layers.length extension.plugin (extended ++ [own])) rest := by
  rw [addReferences]
  split <;> rename_i found <;> rw [found]
  rfl

theorem addReferences_eq (name : String) (path references : List String) (layers : List Layer) :
    addReferences registry sources name path layers references =
      (ofReferences registry sources name path references).map (layers ++ ·) := by
  fun_induction ofReferences registry sources name path references generalizing layers with
  | case1 => simp [addReferences, Except.map]
  | case2 name path reference rest error found =>
      rw [addReferences_cons, found]
      rfl
  | case3 name path reference rest layer found error failed ih =>
      simp only [addReferences_cons, found, ih, failed]
      rfl
  | case4 name path reference rest layer found following isRest ih =>
      simp only [addReferences_cons, found, ih, isRest, Except.map, List.append_assoc,
        List.singleton_append]
  | case5 name path reference rest extension found visited =>
      simp only [addReferences_cons, found, if_pos visited]
      rfl
  | case6 name path reference rest extension found fresh error failed ih =>
      simp only [addReferences_cons, found, if_neg fresh, ih, failed]
      rfl
  | case7 name path reference rest extension found fresh inherited isBelow error failed ih =>
      rw [Extension.layer_eq_error_iff] at failed
      simp only [addReferences_cons, found, if_neg fresh, ih, isBelow, failed, Except.map]
  | case8 name path reference rest extension found fresh inherited isBelow layer isOwn error
      failed ihBelow ihRest =>
      obtain ⟨own, passed, -⟩ := Extension.layer_eq_ok_iff.mp isOwn
      simp only [addReferences_cons, found, if_neg fresh, ihBelow, isBelow, passed, ihRest, failed,
        Except.map]
  | case9 name path reference rest extension found fresh inherited isBelow layer isOwn following
      isRest ihBelow ihRest =>
      obtain ⟨own, passed, rfl⟩ := Extension.layer_eq_ok_iff.mp isOwn
      simp only [addReferences_cons, found, if_neg fresh, ihBelow, isBelow, passed, ihRest, isRest,
        Except.map, declareFrom_append]
      simp only [List.append_assoc, List.singleton_append]

end Expansion

theorem Layer.expand_eq (registry : Registry) (sources : Sources) (name : String)
    (document : PolicyDocument) :
    Layer.expand registry sources name document =
      match Expansion.ofReferences registry sources name [] document.references with
      | .error error => .error error
      | .ok inherited =>
          match Layer.ofDocument registry name .localOverride document with
          | .error error => .error error
          | .ok own => .ok (inherited ++ [own]) := by
  rw [Layer.expand, Expansion.addReferences_eq]
  cases Expansion.ofReferences registry sources name [] document.references <;> rfl

end ScriptLint
