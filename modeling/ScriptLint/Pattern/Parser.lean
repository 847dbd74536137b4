import ScriptLint.Pattern.Basic
import ScriptLint.Text.Digits

/-!
# Reading patterns

The usual notation for regular expressions: literals, `.`, anchors, bracketed
classes with ranges, negation, named classes and set operations, groups,
alternatives, repetitions and flags.  There is no look-around and there are no
back-references.  Every step of the reader consumes a character, so the length of
the notation bounds the number of steps.
-/

namespace ScriptLint

namespace Pattern

open Text

structure Flags where
  ignoreCase : Bool
  multiLine : Bool
  dotAll : Bool
  ignoreSpace : Bool
  unicode : Bool
  deriving DecidableEq, Repr

def Flags.initial : Flags := ⟨false, false, false, false, true⟩

structure Cursor where
  rest : List Char
  groupNames : List (List Char)

abbrev Reader := StateT Cursor Option

namespace Reader

def peek? : Reader (Option Char) := fun cursor => some (cursor.rest.head?, cursor)

def peekSecond? : Reader (Option Char) := fun cursor => some (cursor.rest.tail.head?, cursor)

def next : Reader Char := fun cursor =>
  match cursor.rest with
  | [] => none
  | character :: rest => some (character, { cursor with rest })

def accept (character : Char) : Reader Bool := fun cursor =>
  match cursor.rest with
  | [] => some (false, cursor)
  | first :: rest =>
      if first = character then some (true, { cursor with rest }) else some (false, cursor)

def expect (character : Char) : Reader Unit := do
  if !(← accept character) then failure

def takeWhile (test : Char → Bool) : Reader (List Char) := fun cursor =>
  some (cursor.rest.takeWhile test, { cursor with rest := cursor.rest.dropWhile test })

end Reader

open Reader

/-! ## Repetition counts -/

def countLimit : Nat := 0x100000000

def count : Reader Nat := do
  let _ ← takeWhile isBlank
  let digits ← takeWhile isDecimalDigit
  let _ ← takeWhile isBlank
  if digits.isEmpty then failure
  let number := readDigits digits
  if countLimit ≤ number then failure
  return number

def bounds : Reader (Nat × Option Nat) := do
  let least ← count
  if ← accept ',' then
    if ← accept '\x7d' then return (least, none)
    let most ← count
    expect '\x7d'
    if most < least then failure
    return (least, some most)
  else
    expect '\x7d'
    return (least, some least)

/-! ## Escapes -/

inductive Escape where
  | literal (character : Char)
  | set (set : CharacterSet)
  | assertion (condition : Assertion)

def characterOf (code : Nat) : Reader Char :=
  if code < 0x110000 ∧ ¬ (0xD800 ≤ code ∧ code < 0xE000) then return Char.ofNat code
  else failure

def codePoint (width : Nat) : Reader Char := do
  if ← accept '\x7b' then
    let digits ← takeWhile (· ≠ '\x7d')
    expect '\x7d'
    match digits, readHex? digits with
    | _ :: _, some code => characterOf code
    | _, _ => failure
  else
    let cursor ← get
    let digits := cursor.rest.take width
    if digits.length < width then failure
    set { cursor with rest := cursor.rest.drop width }
    match readHex? digits with
    | some code => characterOf code
    | none => failure

def asciiDigits : List (Char × Char) := [('0', '9')]

def asciiWord : List (Char × Char) := [('0', '9'), ('A', 'Z'), ('_', '_'), ('a', 'z')]

def asciiBlank : List (Char × Char) := [('\t', '\r'), (' ', ' ')]

/-- A class by its letter.  Without Unicode a complement is no set of characters and is refused. -/
def letterClass (flags : Flags) (negated : Bool) (unicodeSet : CharacterSet)
    (ascii : List (Char × Char)) : Reader Escape :=
  if flags.unicode then
    return .set (if negated then .complement unicodeSet else unicodeSet)
  else if negated then failure
  else return .set (.ofRanges ascii)

def wordAssertion (flags : Flags) : Reader Escape := do
  let cursor ← get
  let named (name : String) (condition : Assertion) : Option (Reader Escape) :=
    let text := name.toList
    if flags.unicode ∧ cursor.rest.take text.length = text then
      some do
        set { cursor with rest := cursor.rest.drop text.length }
        return .assertion condition
    else none
  match named "\x7bstart\x7d" .wordStart, named "\x7bend\x7d" .wordEnd with
  | some reader, _ => reader
  | none, some reader => reader
  | none, none => return .assertion .wordBoundary

/-- Any ASCII character but letters, digits and angle brackets may be escaped. -/
def isEscapable (character : Char) : Bool :=
  character.toNat < 128 && !character.isAlphanum && character ≠ '<' && character ≠ '>'

def escape (flags : Flags) : Reader Escape := do
  match ← next with
  | 'd' => letterClass flags false .digit asciiDigits
  | 'D' => letterClass flags true .digit asciiDigits
  | 'w' => letterClass flags false .word asciiWord
  | 'W' => letterClass flags true .word asciiWord
  | 's' => letterClass flags false .blank asciiBlank
  | 'S' => letterClass flags true .blank asciiBlank
  | 'b' => wordAssertion flags
  | 'B' => return .assertion .noWordBoundary
  | 'A' => return .assertion .textStart
  | 'z' => return .assertion .textEnd
  | '<' => return .assertion .wordStart
  | '>' => return .assertion .wordEnd
  | 'a' => return .literal (Char.ofNat 7)
  | 'f' => return .literal (Char.ofNat 12)
  | 't' => return .literal '\t'
  | 'n' => return .literal '\n'
  | 'r' => return .literal '\r'
  | 'v' => return .literal (Char.ofNat 11)
  | 'x' => return .literal (← codePoint 2)
  | 'u' => return .literal (← codePoint 4)
  | 'U' => return .literal (← codePoint 8)
  | character => if isEscapable character then return .literal character else failure

/-! ## Bracketed classes -/

def namedClasses : List (String × List (Char × Char)) := [
  ("alnum", [('0', '9'), ('A', 'Z'), ('a', 'z')]), ("alpha", [('A', 'Z'), ('a', 'z')]),
  ("ascii", [('\x00', '\x7f')]), ("blank", [('\t', '\t'), (' ', ' ')]),
  ("cntrl", [('\x00', '\x1f'), ('\x7f', '\x7f')]), ("digit", [('0', '9')]),
  ("graph", [('!', '~')]), ("lower", [('a', 'z')]), ("print", [(' ', '~')]),
  ("punct", [('!', '/'), (':', '@'), ('[', '\x60'), ('\x7b', '~')]),
  ("space", [('\t', '\r'), (' ', ' ')]), ("upper", [('A', 'Z')]),
  ("word", asciiWord), ("xdigit", [('0', '9'), ('A', 'F'), ('a', 'f')])]

def namedClass? : Reader (Option CharacterSet) := fun cursor =>
  match cursor.rest with
  | '[' :: ':' :: rest =>
      let negated := rest.head? = some '^'
      let body := if negated then rest.tail else rest
      let name := body.takeWhile (· ≠ ':')
      match body.dropWhile (· ≠ ':'), namedClasses.find? (·.1.toList = name) with
      | ':' :: ']' :: rest, some (_, ranges) =>
          let set := CharacterSet.ofRanges ranges
          some (some (if negated then .complement set else set), { cursor with rest })
      | _, _ => some (none, cursor)
  | _ => some (none, cursor)

def classMember (flags : Flags) : Reader Escape := do
  match ← next with
  | '\\' =>
      match ← escape flags with
      | .assertion _ => failure
      | member => return member
  | character => return .literal character

def classRange (flags : Flags) : Reader CharacterSet := do
  let first ← classMember flags
  if flags.ignoreSpace then
    let _ ← takeWhile isBlank
  let single : CharacterSet :=
    match first with
    | .literal character => .single character
    | .set set => set
    | .assertion _ => .none
  match ← peek?, ← peekSecond? with
  | some '-', some ']' => return single
  | some '-', some '-' => return single
  | some '-', some _ =>
      let _ ← next
      match first, ← classMember flags with
      | .literal first, .literal last =>
          if last.toNat < first.toNat then failure
          return .range first.toNat last.toNat
      | _, _ => failure
  | some _, _ => return single
  | none, _ => failure

inductive SetOperation where
  | intersection
  | difference
  | symmetricDifference
  deriving DecidableEq, Repr

def SetOperation.apply : SetOperation → CharacterSet → CharacterSet → CharacterSet
  | .intersection => .intersection
  | .difference => .difference
  | .symmetricDifference => .symmetricDifference

def joinOperand (pending : Option (CharacterSet × SetOperation)) (current : CharacterSet) :
    CharacterSet :=
  match pending with
  | none => current
  | some (earlier, operation) => operation.apply earlier current

def setOperation? : Reader (Option SetOperation) := fun cursor =>
  match cursor.rest with
  | '&' :: '&' :: rest => some (some .intersection, { cursor with rest })
  | '-' :: '-' :: rest => some (some .difference, { cursor with rest })
  | '~' :: '~' :: rest => some (some .symmetricDifference, { cursor with rest })
  | _ => some (none, cursor)

mutual

def classBody : Nat → Flags → Reader CharacterSet
  | 0, _ => failure
  | steps + 1, flags => do
      let negated ← accept '^'
      let dashes ← takeWhile (· = '-')
      let start : CharacterSet := if dashes.isEmpty then .none else .single '-'
      let bracket ← if dashes.isEmpty then accept ']' else pure false
      let start := if bracket then .single ']' else start
      let set ← classItems steps flags none start
      let cased := if flags.ignoreCase then .anyCase set else set
      if negated then
        if flags.unicode then return .complement cased else failure
      return cased

def classItems : Nat → Flags → Option (CharacterSet × SetOperation) → CharacterSet →
    Reader CharacterSet
  | 0, _, _, _ => failure
  | steps + 1, flags, pending, current => do
      if flags.ignoreSpace then
        let _ ← takeWhile isBlank
      match ← peek? with
      | none => failure
      | some ']' =>
          let _ ← next
          return joinOperand pending current
      | some '[' =>
          match ← namedClass? with
          | some set => classItems steps flags pending (.union current set)
          | none =>
              let _ ← next
              let set ← classBody steps flags
              classItems steps flags pending (.union current set)
      | some _ =>
          match ← setOperation? with
          | some operation =>
              classItems steps flags (some (joinOperand pending current, operation)) .none
          | none =>
              let set ← classRange flags
              classItems steps flags pending (.union current set)

end

/-! ## Groups -/

inductive GroupHead where
  | setting (flags : Flags)
  | opening (flags : Flags)

def Flags.set? (flags : Flags) (value : Bool) : Char → Option Flags
  | 'i' => some { flags with ignoreCase := value }
  | 'm' => some { flags with multiLine := value }
  | 's' => some { flags with dotAll := value }
  | 'x' => some { flags with ignoreSpace := value }
  | 'u' => some { flags with unicode := value }
  | 'U' => some flags
  | 'R' => some flags
  | _ => none

def applyFlags (flags : Flags) (letters : List Char) : Reader Flags := do
  let on := letters.takeWhile (· ≠ '-')
  let off := (letters.dropWhile (· ≠ '-')).tail
  if (on ++ off).isEmpty ∨ ¬ (on ++ off).Nodup ∨ (letters.contains '-' ∧ off.isEmpty) then failure
  match on.foldlM (·.set? true) flags with
  | none => failure
  | some flags =>
      match off.foldlM (·.set? false) flags with
      | none => failure
      | some flags => return flags

def isNameCharacter (character : Char) : Bool :=
  isWord character || character = '.' || character = '[' || character = ']'

def groupName : Reader Unit := do
  let name ← takeWhile (· ≠ '>')
  expect '>'
  match name with
  | [] => failure
  | first :: _ =>
      if !isWord first || isDigit first || !name.all isNameCharacter then failure
      let cursor ← get
      if cursor.groupNames.contains name then failure
      set { cursor with groupNames := name :: cursor.groupNames }

def groupHead (flags : Flags) : Reader GroupHead := do
  if !(← accept '?') then return .opening flags
  match ← peek?, ← peekSecond? with
  | some 'P', some '<' =>
      let _ ← next
      let _ ← next
      groupName
      return .opening flags
  | some '<', _ =>
      let _ ← next
      groupName
      return .opening flags
  | some ':', _ =>
      let _ ← next
      return .opening flags
  | _, _ =>
      let letters ← takeWhile fun character => character ≠ ')' ∧ character ≠ ':'
      let changed ← applyFlags flags letters
      match ← next with
      | ')' => return .setting changed
      | _ => return .opening changed

/-! ## Whole patterns -/

def ofItems (items : List (Option Pattern)) : Pattern :=
  (items.filterMap id).foldl (fun later item => .sequence item later) .empty

def ofAlternatives (earlier : Option Pattern) (items : List (Option Pattern)) : Pattern :=
  match earlier with
  | none => ofItems items
  | some pattern => .choice pattern (ofItems items)

/-- Repeats the last item; a change of flags cannot be repeated. -/
def repeatLast (items : List (Option Pattern)) (least : Nat) (most : Option Nat) :
    Reader (List (Option Pattern)) := do
  let _ ← accept '?'
  match items with
  | some item :: rest => return some (.repetition item least most) :: rest
  | _ => failure

def literal (flags : Flags) (character : Char) : Pattern :=
  .one (if flags.ignoreCase then .anyCase (.single character) else .single character)

def anyCharacter (flags : Flags) : Reader Pattern :=
  if !flags.unicode then failure
  else if flags.dotAll then return .one (.complement .none)
  else return .one (.complement (.single '\n'))

def simplePart (steps : Nat) (flags : Flags) : Char → Reader Pattern
  | '.' => anyCharacter flags
  | '^' => return .assertion (if flags.multiLine then .lineStart else .textStart)
  | '$' => return .assertion (if flags.multiLine then .lineEnd else .textEnd)
  | '[' => return .one (← classBody steps flags)
  | '\\' => do
      match ← escape flags with
      | .literal character => return literal flags character
      | .set set => return .one set
      | .assertion condition => return .assertion condition
  | character => return literal flags character

/--
Reads alternatives up to a closing parenthesis or the end.  `earlier` holds the
finished alternatives and `items` the parts of the current one, a change of flags
being no part of it.
-/
def alternatives : Nat → Flags → Option Pattern → List (Option Pattern) → Reader Pattern
  | 0, _, _, _ => failure
  | steps + 1, flags, earlier, items => do
      if flags.ignoreSpace then
        let _ ← takeWhile isBlank
      match ← peek? with
      | none => return ofAlternatives earlier items
      | some ')' => return ofAlternatives earlier items
      | some character =>
          let _ ← next
          match character with
          | '|' => alternatives steps flags (some (ofAlternatives earlier items)) []
          | '(' =>
              match ← groupHead flags with
              | .setting changed => alternatives steps changed earlier (none :: items)
              | .opening inner =>
                  let body ← alternatives steps inner none []
                  expect ')'
                  alternatives steps flags earlier (some body :: items)
          | '*' => alternatives steps flags earlier (← repeatLast items 0 none)
          | '+' => alternatives steps flags earlier (← repeatLast items 1 none)
          | '?' => alternatives steps flags earlier (← repeatLast items 0 (some 1))
          | '\x7b' =>
              let (least, most) ← bounds
              alternatives steps flags earlier (← repeatLast items least most)
          | '#' =>
              if flags.ignoreSpace then
                let _ ← takeWhile (· ≠ '\n')
                alternatives steps flags earlier items
              else
                alternatives steps flags earlier (some (literal flags '#') :: items)
          | character =>
              let part ← simplePart steps flags character
              alternatives steps flags earlier (some part :: items)

def parse? (source : String) : Option Pattern :=
  let characters := source.toList
  match alternatives (characters.length + 1) .initial none [] ⟨characters, []⟩ with
  | some (pattern, ⟨[], _⟩) => some pattern
  | _ => none

end Pattern

def PatternEngine.standard : PatternEngine where
  Compiled := Pattern
  compile source :=
    match Pattern.parse? source with
    | some pattern => .ok pattern
    | none => .error "not a pattern"
  matchesIn := Pattern.matchesIn

end ScriptLint
