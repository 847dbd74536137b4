import ScriptLint.Cascade.Reference

/-!
# Expansion

A document and all that it extends become a list of layers: what a document
extends comes before it, in the order of its references.  A document that is
extended on two ways is listed twice; one that extends itself, directly or not, is
an error.
-/

namespace ScriptLint

def Layer.declaring (layer : Layer) : Option String → Layer
  | none => layer
  | some plugin => { layer with plugins := layer.plugins.add plugin }

namespace Expansion

def unvisited (registry : Registry) (sources : Sources) (path : List String) : Nat :=
  ((Target.references registry sources).filter (· ∉ path)).length

theorem filter_notMem_cons_lt {names path : List String} {name : String} (known : name ∈ names)
    (fresh : name ∉ path) :
    (names.filter (· ∉ name :: path)).length < (names.filter (· ∉ path)).length := by
  have smaller : names.filter (· ∉ name :: path) =
      (names.filter (· ∉ path)).filter (· ≠ name) := by
    rw [List.filter_filter]
    congr 1
    funext other
    simp
  rw [smaller, List.length_filter_lt_length_iff_exists]
  exact ⟨name, List.mem_filter.mpr ⟨known, by simpa using fresh⟩, by simp⟩

/-- The last of the layers from an index on declares a plugin, if there is such a layer. -/
def declareFrom (start : Nat) (plugin : Option String) (layers : List Layer) : List Layer :=
  if start < layers.length then layers.modify (layers.length - 1) (·.declaring plugin) else layers

/--
Adds the layers of what a document extends to those in hand.  The path leads from the
document back to the root, and names neither repeat on it nor run out.
-/
def addReferences (registry : Registry) (sources : Sources) (name : String)
    (path : List String) : List Layer → List String → Except ConfigError (List Layer)
  | layers, [] => .ok layers
  | layers, reference :: rest =>
      match _found : Target.find registry sources name reference with
      | .error error => .error error
      | .ok (.preset layer) => addReferences registry sources name path (layers ++ [layer]) rest
      | .ok (.document extension) =>
          if _cycle : reference ∈ name :: path then
            .error ⟨name, .extendsCycle (reference :: name :: path).reverse⟩
          else
            match addReferences registry sources reference (name :: path) layers
                extension.document.references with
            | .error error => .error error
            | .ok extended =>
                match Layer.ofDocument registry reference extension.kind extension.document with
                | .error error => .error error
                | .ok own =>
                    addReferences registry sources name path
                      (declareFrom layers.length extension.plugin (extended ++ [own])) rest
termination_by _ references => (unvisited registry sources (name :: path), references.length)
decreasing_by
  · exact Prod.Lex.right _ (Nat.lt_succ_self _)
  · exact Prod.Lex.left _ _ (filter_notMem_cons_lt (Target.mem_references _found) _cycle)
  · exact Prod.Lex.right _ (Nat.lt_succ_self _)

end Expansion

def Layer.expand (registry : Registry) (sources : Sources) (name : String)
    (document : PolicyDocument) : Except ConfigError (List Layer) :=
  match Expansion.addReferences registry sources name [] [] document.references with
  | .error error => .error error
  | .ok extended =>
      match Layer.ofDocument registry name .localOverride document with
      | .error error => .error error
      | .ok own => .ok (extended ++ [own])

end ScriptLint
