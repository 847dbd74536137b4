import ScriptLint.Text.Classes
import ScriptLint.Text.Folding
import ScriptLint.Text.Word

/-!
# Patterns

Regular expressions over characters, and whether one matches some part of a
text.  A pattern is read as the set of places where a match that begins at a
given place may end, so the answer does not depend on the order in which
alternatives are tried.  What rules ask of regular expressions is an engine; the
patterns here make up one.
-/

namespace ScriptLint

/-! ## Engines -/

/-- Compiles the notation of a pattern, or explains why it is none, and matches parts of texts. -/
structure PatternEngine where
  Compiled : Type
  compile : String → Except String Compiled
  matchesIn : Compiled → String → Bool

/-! ## Sets of characters -/

inductive CharacterSet where
  | none
  | range (first last : Nat)
  | digit
  | word
  | blank
  | union (first second : CharacterSet)
  | intersection (first second : CharacterSet)
  | complement (set : CharacterSet)
  | anyCase (set : CharacterSet)

namespace CharacterSet

def contains : CharacterSet → Nat → Bool
  | .none, _ => false
  | .range first last, code => first ≤ code && code ≤ last
  | .digit, code => Text.isDigit (Char.ofNat code)
  | .word, code => Text.isWord (Char.ofNat code)
  | .blank, code => Text.isBlank (Char.ofNat code)
  | .union first second, code => first.contains code || second.contains code
  | .intersection first second, code => first.contains code && second.contains code
  | .complement set, code => !set.contains code
  | .anyCase set, code => (Text.caseVariants code).any fun variant => set.contains variant

def single (character : Char) : CharacterSet := .range character.toNat character.toNat

def ofRanges (ranges : List (Char × Char)) : CharacterSet :=
  ranges.foldl (fun set range => .union set (.range range.1.toNat range.2.toNat)) .none

def difference (first second : CharacterSet) : CharacterSet :=
  .intersection first (.complement second)

def symmetricDifference (first second : CharacterSet) : CharacterSet :=
  .union (difference first second) (difference second first)

end CharacterSet

/-! ## Places in a text -/

inductive Assertion where
  | textStart
  | textEnd
  | lineStart
  | lineEnd
  | wordBoundary
  | noWordBoundary
  | wordStart
  | wordEnd
  deriving DecidableEq, Repr

namespace Assertion

def wordAt (text : Array Char) (index : Nat) : Bool :=
  match text[index]? with
  | some character => Text.isWord character
  | none => false

def wordBefore (text : Array Char) (index : Nat) : Bool :=
  if index = 0 then false else wordAt text (index - 1)

def holds (text : Array Char) (index : Nat) : Assertion → Bool
  | .textStart => index = 0
  | .textEnd => index = text.size
  | .lineStart => index = 0 || text[index - 1]? = some '\n'
  | .lineEnd => index = text.size || text[index]? = some '\n'
  | .wordBoundary => wordBefore text index != wordAt text index
  | .noWordBoundary => wordBefore text index == wordAt text index
  | .wordStart => !wordBefore text index && wordAt text index
  | .wordEnd => wordBefore text index && !wordAt text index

end Assertion

/-! ## Patterns -/

inductive Pattern where
  | empty
  | one (set : CharacterSet)
  | assertion (condition : Assertion)
  | sequence (first second : Pattern)
  | choice (first second : Pattern)
  | repetition (body : Pattern) (least : Nat) (most : Option Nat)

namespace Pattern

def advance (step : Nat → List Nat) (places : List Nat) : List Nat :=
  (places.flatMap step).eraseDups

def advanceTimes (step : Nat → List Nat) : Nat → List Nat → List Nat
  | 0, places => places
  | times + 1, places => advanceTimes step times (advance step places)

def reachable (step : Nat → List Nat) : Nat → List Nat → List Nat
  | 0, places => places
  | times + 1, places => reachable step times ((places ++ advance step places).eraseDups)

/--
Where a match that begins at a place may end.  Beyond its least number of
repetitions a repetition reaches every place that it can reach in as many steps
as the text has characters.
-/
def ends (text : Array Char) : Pattern → Nat → List Nat
  | .empty, index => [index]
  | .one set, index =>
      match text[index]? with
      | some character => if set.contains character.toNat then [index + 1] else []
      | none => []
  | .assertion condition, index => if condition.holds text index then [index] else []
  | .sequence first second, index => advance (ends text second) (ends text first index)
  | .choice first second, index => (ends text first index ++ ends text second index).eraseDups
  | .repetition body least most, index =>
      let further :=
        match most with
        | some bound => min (bound - least) text.size
        | none => text.size
      reachable (ends text body) further (advanceTimes (ends text body) least [index])

def matchesIn (pattern : Pattern) (text : String) : Bool :=
  let characters := text.toList.toArray
  (List.range (characters.size + 1)).any fun index => !(pattern.ends characters index).isEmpty

end Pattern

end ScriptLint
