import ScriptLint.Text.Digits

/-!
# TOML lexemes

The lexical grammar of TOML.  Blanks and line ends stay in the list of lexemes,
because the grammar of statements depends on them; comments do not.  A word is a
run of characters without a role of its own: a bare key with its dots, a number,
a date, or nothing at all.
-/

namespace ScriptLint.Toml

open Text

inductive Lexeme where
  | equals
  | comma
  | openBracket
  | closeBracket
  | openBrace
  | closeBrace
  | space
  | lineEnd
  | word (characters : List Char)
  | quoted (content : String) (multiLine : Bool)

def joinLineEnds : List Char → List Char
  | [] => []
  | '\r' :: '\n' :: rest => '\n' :: joinLineEnds rest
  | character :: rest => character :: joinLineEnds rest

def isSpace (character : Char) : Bool := character = ' ' || character = '\t'

def isPlain (character : Char) : Bool :=
  character = '\t' || (32 ≤ character.toNat && character.toNat ≠ 127)

/-! ## Escapes -/

def escapeMeaning? (mark : Char) : Option Char :=
  match mark with
  | '"' => some '"'
  | '\\' => some '\\'
  | 'b' => some (Char.ofNat 8)
  | 't' => some '\t'
  | 'n' => some '\n'
  | 'f' => some (Char.ofNat 12)
  | 'r' => some '\r'
  | 'e' => some (Char.ofNat 27)
  | _ => none

def escapeWidth? (mark : Char) : Option Nat :=
  match mark with
  | 'x' => some 2
  | 'u' => some 4
  | 'U' => some 8
  | _ => none

def characterOf? (code : Nat) : Option Char :=
  if code.isValidChar then some (Char.ofNat code) else none

def readCode? (width : Nat) (input : List Char) : Option (Char × List Char) :=
  if (input.take width).length = width then
    ((readHex? (input.take width)).bind characterOf?).map fun character =>
      (character, input.drop width)
  else none

def readEscape? : List Char → Option (Char × List Char)
  | [] => none
  | mark :: rest =>
      match escapeWidth? mark with
      | some width => readCode? width rest
      | none => (escapeMeaning? mark).map fun character => (character, rest)

theorem readCode?_length {width : Nat} {input rest : List Char} {character : Char}
    (read : readCode? width input = some (character, rest)) : rest.length ≤ input.length := by
  unfold readCode? at read
  split at read
  · obtain ⟨_, -, same⟩ := Option.map_eq_some_iff.mp read
    cases same
    simp
  · cases read

theorem readEscape?_length {input rest : List Char} {character : Char}
    (read : readEscape? input = some (character, rest)) : rest.length < input.length := by
  cases input with
  | nil => cases read
  | cons mark rest' =>
      rw [readEscape?] at read
      split at read
      · exact Nat.lt_succ_of_le (readCode?_length read)
      · obtain ⟨_, -, same⟩ := Option.map_eq_some_iff.mp read
        cases same
        simp

/-! ## Quoted texts -/

def consCharacter (character : Char) (rest : Option (List Char × List Char)) :
    Option (List Char × List Char) :=
  rest.map fun result => (character :: result.1, result.2)

def readBasic? (input : List Char) : Option (List Char × List Char) :=
  match input with
  | [] => none
  | '"' :: rest => some ([], rest)
  | '\\' :: rest =>
      match escape : readEscape? rest with
      | none => none
      | some (character, rest') =>
          have := readEscape?_length escape
          consCharacter character (readBasic? rest')
  | character :: rest =>
      if isPlain character then consCharacter character (readBasic? rest) else none
termination_by input.length
decreasing_by all_goals simp_all <;> omega

def readLiteral? : List Char → Option (List Char × List Char)
  | [] => none
  | '\x27' :: rest => some ([], rest)
  | character :: rest =>
      if isPlain character then consCharacter character (readLiteral? rest) else none

/-- The end of a text on several lines, where up to two more quotes belong to the text. -/
def closeBlock (quote : Char) (rest : List Char) : List Char × List Char :=
  let extra := (rest.take 2).takeWhile (· == quote)
  (extra, rest.drop extra.length)

def isSpaceOrLineEnd (character : Char) : Bool := isSpace character || character = '\n'

/-- What follows a backslash at the end of a line: all blanks and line ends are left out. -/
def continueLine? (rest : List Char) : Option (List Char) :=
  match rest.dropWhile isSpace with
  | '\n' :: more => some (more.dropWhile isSpaceOrLineEnd)
  | _ => none

theorem continueLine?_length {rest more : List Char} (continued : continueLine? rest = some more) :
    more.length ≤ rest.length := by
  unfold continueLine? at continued
  have skipped := (List.dropWhile_sublist (l := rest) isSpace).length_le
  split at continued
  · rename_i following same
    have further := (List.dropWhile_sublist (l := following) isSpaceOrLineEnd).length_le
    cases continued
    simp only [same, List.length_cons] at skipped
    omega
  · cases continued

def readBasicBlock? (input : List Char) : Option (List Char × List Char) :=
  match input with
  | [] => none
  | '"' :: '"' :: '"' :: rest => some (closeBlock '"' rest)
  | '\\' :: rest =>
      match escape : readEscape? rest with
      | some (character, rest') =>
          have := readEscape?_length escape
          consCharacter character (readBasicBlock? rest')
      | none =>
          match continued : continueLine? rest with
          | some rest' =>
              have := continueLine?_length continued
              readBasicBlock? rest'
          | none => none
  | character :: rest =>
      if isPlain character || character = '\n' then
        consCharacter character (readBasicBlock? rest)
      else none
termination_by input.length
decreasing_by all_goals simp_all <;> omega

def readLiteralBlock? : List Char → Option (List Char × List Char)
  | [] => none
  | '\x27' :: '\x27' :: '\x27' :: rest => some (closeBlock '\x27' rest)
  | character :: rest =>
      if isPlain character || character = '\n' then
        consCharacter character (readLiteralBlock? rest)
      else none

/-- A line end right after the opening quotes does not belong to the text. -/
def dropLineEnd : List Char → List Char
  | '\n' :: rest => rest
  | input => input

def readQuoted? : List Char → Option (Lexeme × List Char)
  | '"' :: '"' :: '"' :: rest =>
      (readBasicBlock? (dropLineEnd rest)).map fun result =>
        (.quoted (String.ofList result.1) true, result.2)
  | '"' :: rest =>
      (readBasic? rest).map fun result => (.quoted (String.ofList result.1) false, result.2)
  | '\x27' :: '\x27' :: '\x27' :: rest =>
      (readLiteralBlock? (dropLineEnd rest)).map fun result =>
        (.quoted (String.ofList result.1) true, result.2)
  | '\x27' :: rest =>
      (readLiteral? rest).map fun result => (.quoted (String.ofList result.1) false, result.2)
  | _ => none

theorem readBasic?_length {input content rest : List Char}
    (read : readBasic? input = some (content, rest)) : rest.length < input.length := by
  fun_induction readBasic? input generalizing content rest <;>
    simp_all [consCharacter] <;> grind

theorem readLiteral?_length {input content rest : List Char}
    (read : readLiteral? input = some (content, rest)) : rest.length < input.length := by
  fun_induction readLiteral? input generalizing content rest with
  | case1 => cases read
  | case2 => simp_all
  | case3 => simp_all [consCharacter]; grind
  | case4 => cases read

theorem closeBlock_length (quote : Char) (rest : List Char) :
    (closeBlock quote rest).2.length ≤ rest.length := by
  simp [closeBlock]

theorem readBasicBlock?_length {input content rest : List Char}
    (read : readBasicBlock? input = some (content, rest)) : rest.length ≤ input.length := by
  fun_induction readBasicBlock? input generalizing content rest with
  | case1 => cases read
  | case2 following =>
      have shorter := closeBlock_length '"' following
      rw [Option.some.inj read] at shorter
      simp only [List.length_cons] at shorter ⊢
      omega
  | case3 => simp_all [consCharacter]; grind
  | case4 => simp_all; grind
  | case5 => cases read
  | case6 => simp_all [consCharacter]; grind
  | case7 => cases read

theorem readLiteralBlock?_length {input content rest : List Char}
    (read : readLiteralBlock? input = some (content, rest)) : rest.length ≤ input.length := by
  fun_induction readLiteralBlock? input generalizing content rest with
  | case1 => cases read
  | case2 following =>
      have shorter := closeBlock_length '\x27' following
      rw [Option.some.inj read] at shorter
      simp only [List.length_cons] at shorter ⊢
      omega
  | case3 => simp_all [consCharacter]; grind
  | case4 => cases read

theorem dropLineEnd_length (input : List Char) :
    (dropLineEnd input).length ≤ input.length := by
  unfold dropLineEnd
  split <;> simp

theorem readQuoted?_length {input rest : List Char} {lexeme : Lexeme}
    (read : readQuoted? input = some (lexeme, rest)) : rest.length < input.length := by
  unfold readQuoted? at read
  split at read <;> simp only [Option.map_eq_some_iff, reduceCtorEq] at read
  · obtain ⟨⟨content, after⟩, block, same⟩ := read
    have shorter := Nat.le_trans (readBasicBlock?_length block) (dropLineEnd_length _)
    cases same
    simp only [List.length_cons]
    omega
  · obtain ⟨⟨content, after⟩, line, same⟩ := read
    have shorter := readBasic?_length line
    cases same
    simp only [List.length_cons]
    omega
  · obtain ⟨⟨content, after⟩, block, same⟩ := read
    have shorter := Nat.le_trans (readLiteralBlock?_length block) (dropLineEnd_length _)
    cases same
    simp only [List.length_cons]
    omega
  · obtain ⟨⟨content, after⟩, line, same⟩ := read
    have shorter := readLiteral?_length line
    cases same
    simp only [List.length_cons]
    omega

/-! ## Words -/

def isWordCharacter (character : Char) : Bool :=
  !(isSpaceOrLineEnd character || ['=', ',', '[', ']', '\x7b', '\x7d', '#', '"', '\x27'].contains
    character)

def isDateShape : List Char → Bool
  | [y, e, a, r, first, m, o, second, d, t] =>
      [y, e, a, r, m, o, d, t].all isDecimalDigit && first = '-' && second = '-'
  | _ => false

/--
Splits off a word that starts with a given character.  A date may go on with a time
after a blank.
-/
def splitWord (character : Char) (rest : List Char) : List Char × List Char :=
  let run := character :: rest.takeWhile isWordCharacter
  match rest.dropWhile isWordCharacter with
  | ' ' :: digit :: more =>
      if isDateShape run && isDecimalDigit digit then
        (run ++ ' ' :: digit :: more.takeWhile isWordCharacter, more.dropWhile isWordCharacter)
      else (run, ' ' :: digit :: more)
  | after => (run, after)

theorem splitWord_length (character : Char) (rest : List Char) :
    (splitWord character rest).2.length ≤ rest.length := by
  have skipped := (List.dropWhile_sublist (l := rest) isWordCharacter).length_le
  unfold splitWord
  simp only
  split
  · rename_i digit more same
    have further := (List.dropWhile_sublist (l := more) isWordCharacter).length_le
    simp only [same, List.length_cons] at skipped
    split
    · simp only
      omega
    · simp only [List.length_cons]
      omega
  · exact skipped

/-! ## Lexeme lists -/

def lexemes (input : List Char) : Option (List Lexeme) :=
  match input with
  | [] => some []
  | '=' :: rest => (lexemes rest).map (.equals :: ·)
  | ',' :: rest => (lexemes rest).map (.comma :: ·)
  | '[' :: rest => (lexemes rest).map (.openBracket :: ·)
  | ']' :: rest => (lexemes rest).map (.closeBracket :: ·)
  | '\x7b' :: rest => (lexemes rest).map (.openBrace :: ·)
  | '\x7d' :: rest => (lexemes rest).map (.closeBrace :: ·)
  | '\n' :: rest => (lexemes rest).map (.lineEnd :: ·)
  | '#' :: rest =>
      have := (List.dropWhile_sublist (l := rest) (· != '\n')).length_le
      if (rest.takeWhile (· != '\n')).all isPlain then
        lexemes (rest.dropWhile (· != '\n'))
      else none
  | character :: rest =>
      if isSpace character then (lexemes rest).map (.space :: ·)
      else if character = '"' || character = '\x27' then
        match read : readQuoted? (character :: rest) with
        | none => none
        | some (lexeme, rest') =>
            have := readQuoted?_length read
            (lexemes rest').map (lexeme :: ·)
      else
        have := splitWord_length character rest
        (lexemes (splitWord character rest).2).map (.word (splitWord character rest).1 :: ·)
termination_by input.length
decreasing_by all_goals (simp only [List.length_cons] at *; omega)

end ScriptLint.Toml
