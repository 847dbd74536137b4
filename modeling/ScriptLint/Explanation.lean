import ScriptLint.Engine.Registry

/-!
# Explaining rules

What the registry says about a rule, or which rules there are if it knows none
of the given name.
-/

namespace ScriptLint

structure RuleExplanation where
  id : String
  description : String
  recommended : Bool
  plugin : Option String
  aliases : List String
  deriving DecidableEq, Repr

inductive Explanation where
  | found (rule : RuleExplanation)
  | notFound (name : String) (available : List String)
  deriving DecidableEq, Repr

namespace RuleExplanation

def ofRegistered (registered : RegisteredRule) : RuleExplanation where
  id := registered.id
  description := registered.rule.description
  recommended := registered.rule.recommended
  plugin := registered.plugin
  aliases := registered.rule.aliases

/-- The id is underlined with one sign for each byte of its encoding. -/
def text (explanation : RuleExplanation) : String :=
  let underline := String.ofList (List.replicate explanation.id.utf8ByteSize '=')
  let recommended :=
    if explanation.recommended then "Enabled by stylepolicy:recommended.\n" else ""
  let plugin :=
    match explanation.plugin with
    | some name => s!"Provided by plugin '{name}'.\n"
    | none => ""
  let aliases :=
    match explanation.aliases with
    | [] => ""
    | names => "Aliases: " ++ ", ".intercalate names ++ "\n"
  explanation.id ++ "\n" ++ underline ++ "\n\n" ++ explanation.description ++ "\n\n" ++
    recommended ++ plugin ++ aliases

end RuleExplanation

namespace Explanation

def text : Explanation → String
  | .found rule => rule.text
  | .notFound name available =>
      s!"Unknown rule: {name}\n\nAvailable rules:\n" ++
        String.join (available.map fun id => s!"  - {id}\n")

end Explanation

def Registry.explain (registry : Registry) (name : String) : Explanation :=
  match registry.get? name with
  | some registered => .found (.ofRegistered registered)
  | none => .notFound name (registry.rules.map (·.id))

end ScriptLint
