import ScriptLint.Json.Reader
import ScriptLint.Json.Writer
import ScriptLint.Proofs.Text.Digits

/-!
# Values read from their text

The pretty text of a value is read back as the value, if all its numbers are whole and
fit a word and if it nests no deeper than the reader goes.  Strings are read back whatever
characters they have.
-/

namespace ScriptLint

/-- A value that JSON text holds as it is: its numbers are whole and fit a word. -/
inductive Value.IsExact : Value → Prop
  | null : IsExact .null
  | bool (flag : Bool) : IsExact (.bool flag)
  | int {number : Int} (least : -0x8000000000000000 ≤ number)
      (most : number < 0x10000000000000000) : IsExact (.int number)
  | string (text : String) : IsExact (.string text)
  | array {items : List Value} (each : ∀ item ∈ items, item.IsExact) : IsExact (.array items)
  | object {fields : List (String × Value)} (each : ∀ field ∈ fields, field.2.IsExact) :
      IsExact (.object fields)

namespace Value

@[simp] theorem isExact_string (text : String) : (Value.string text).IsExact := .string text

@[simp] theorem isExact_array_iff {items : List Value} :
    (Value.array items).IsExact ↔ ∀ item ∈ items, item.IsExact :=
  ⟨fun exact => by cases exact; assumption, .array⟩

@[simp] theorem isExact_object_iff {fields : List (String × Value)} :
    (Value.object fields).IsExact ↔ ∀ field ∈ fields, field.2.IsExact :=
  ⟨fun exact => by cases exact; assumption, .object⟩

end Value

namespace Json

open Text

/-! ## Strings -/

theorem readHex?_hexFixed : ∀ number < 32, readHex? (hexFixed 4 number) = some number := by
  decide

theorem readString_unicode {number : Nat} (small : number < 32) (rest : List Char) :
    readString (['\\', 'u'] ++ hexFixed 4 number ++ rest) =
      consCharacter (Char.ofNat number) (readString rest) := by
  have read := readHex?_hexFixed number small
  simp only [hexFixed, List.nil_append, List.cons_append] at read ⊢
  rw [readString, read]
  have notHigh : isHighSurrogate number = false := by simp [isHighSurrogate]; omega
  have notLow : isLowSurrogate number = false := by simp [isLowSurrogate]; omega
  simp [notHigh, notLow]

theorem readString_escapedCharacter (character : Char) (rest : List Char) :
    readString (escapedCharacter character ++ rest) =
      consCharacter character (readString rest) := by
  fun_cases escapedCharacter character with
  | case6 _ _ _ _ _ isBackspace =>
      rw [← Char.ofNat_toNat character, isBackspace]
      simp [readString, escapeMeaning?]
  | case7 _ _ _ _ _ _ isFormFeed =>
      rw [← Char.ofNat_toNat character, isFormFeed]
      simp [readString, escapeMeaning?]
  | case8 _ _ _ _ _ _ _ small =>
      simpa [Char.ofNat_toNat] using readString_unicode small rest
  | case9 notQuote notBackslash _ _ _ _ _ notSmall =>
      rw [List.singleton_append, readString, if_neg notSmall] <;> simp_all
  | _ => simp_all [readString, escapeMeaning?]

theorem readString_escaped (content rest : List Char) :
    readString (content.flatMap escapedCharacter ++ '"' :: rest) = some (content, rest) := by
  induction content with
  | nil => simp [readString]
  | cons character content ih =>
      rw [List.flatMap_cons, List.append_assoc, readString_escapedCharacter, ih]
      rfl

theorem tokens_stringText (text : String) (rest : List Char) :
    tokens (stringText text ++ rest) = (tokens rest).map (.scalar (.string text) :: ·) := by
  have read := readString_escaped text.toList rest
  have opened : stringText text ++ rest =
      '"' :: (text.toList.flatMap escapedCharacter ++ '"' :: rest) := by simp [stringText]
  rw [opened, tokens]
  split
  · rename_i failed
    rw [read] at failed
    cases failed
  · rename_i content after found
    rw [read] at found
    cases found
    rw [String.ofList_toList]

/-! ## Whole numbers -/

def EndsNumber (rest : List Char) : Prop :=
  ∀ character ∈ rest.head?, isDecimalDigit character = false ∧ character ≠ '.' ∧
    character ≠ 'e' ∧ character ≠ 'E'

theorem splitWhole_decimalDigits (number : Nat) {rest : List Char} (ends : EndsNumber rest) :
    splitWhole (decimalDigits number ++ rest) = (decimalDigits number, rest) := by
  have taken := span_digits
    (fun _ (member : _ ∈ decimalDigits number) => isDecimalDigit_of_mem_decimalDigits member)
    (fun character isHead => (ends character isHead).1)
  rcases Nat.eq_zero_or_pos number with rfl | positive
  · have zero : decimalDigits 0 = ['0'] := by simp [decimalDigits, decimalDigit]
    rw [zero]
    rfl
  · obtain ⟨digit, others, same, -, notZero⟩ := head_decimalDigits number
    have headNotZero : (decimalDigits number ++ rest).head? ≠ some '0' := by
      rw [same, List.cons_append, List.head?_cons]
      exact fun isZero => notZero positive (Option.some.inj isZero)
    rw [splitWhole_of_not_zero headNotZero, taken.1, taken.2]

theorem readUnsigned_decimalDigits (negative : Bool) (number : Nat) {rest : List Char}
    (ends : EndsNumber rest) :
    readUnsigned negative (decimalDigits number ++ rest) =
      (wholeNumber? negative (decimalDigits number)).map (·, rest) := by
  have notEmpty : (decimalDigits number).isEmpty = false := by
    unfold decimalDigits
    split <;> simp
  have noFraction : splitFraction? rest = some (none, rest) := by
    cases rest with
    | nil => rfl
    | cons character rest =>
        have := (ends character rfl).2.1
        simp_all [splitFraction?]
  have noExponent : splitExponent? rest = some (none, rest) := by
    cases rest with
    | nil => rfl
    | cons character rest =>
        have := (ends character rfl).2.2
        simp_all [splitExponent?]
  rw [readUnsigned, splitWhole_decimalDigits number ends, notEmpty]
  simp [noFraction, noExponent, numberValue?]

theorem head_integerDigits (number : Int) :
    ∃ character rest, integerDigits number = character :: rest ∧
      (character = '-' ∨ isDecimalDigit character = true) := by
  unfold integerDigits
  split
  · exact ⟨'-', _, rfl, .inl rfl⟩
  · obtain ⟨digit, rest, same, isDigit, -⟩ := head_decimalDigits number.natAbs
    exact ⟨digit, rest, same, .inr isDigit⟩

theorem wholeNumber?_decimalDigits {number : Int} (least : -0x8000000000000000 ≤ number)
    (most : number < 0x10000000000000000) :
    wholeNumber? (decide (number < 0)) (decimalDigits number.natAbs) = some (.int number) := by
  rw [wholeNumber?, readDigits_decimalDigits]
  by_cases negative : number < 0
  · have same : -(number.natAbs : Int) = number := by omega
    rw [if_pos (decide_eq_true negative), if_pos (by omega), same]
  · have same : (number.natAbs : Int) = number := by omega
    have inRange : number.natAbs < wordLimit := by unfold wordLimit; omega
    rw [decide_eq_false negative, if_neg Bool.false_ne_true, if_pos inRange, same]

theorem readNumber_integerDigits {number : Int} (least : -0x8000000000000000 ≤ number)
    (most : number < 0x10000000000000000) {rest : List Char} (ends : EndsNumber rest) :
    readNumber (integerDigits number ++ rest) = some (.int number, rest) := by
  have whole := wholeNumber?_decimalDigits least most
  by_cases negative : number < 0
  · rw [decide_eq_true negative] at whole
    rw [integerDigits, if_pos negative, List.cons_append, readNumber,
      readUnsigned_decimalDigits true _ ends, whole, Option.map_some]
  · have unsigned : (decimalDigits number.natAbs ++ rest).head? ≠ some '-' := by
      obtain ⟨digit, others, same, isDigit, -⟩ := head_decimalDigits number.natAbs
      rw [same]
      intro isMinus
      cases isMinus
      revert isDigit
      decide
    rw [decide_eq_false negative] at whole
    rw [integerDigits, if_neg negative, readNumber_of_not_minus unsigned,
      readUnsigned_decimalDigits false _ ends, whole, Option.map_some]

theorem tokens_integerDigits {number : Int} (least : -0x8000000000000000 ≤ number)
    (most : number < 0x10000000000000000) {rest : List Char} (ends : EndsNumber rest) :
    tokens (integerDigits number ++ rest) = (tokens rest).map (.scalar (.int number) :: ·) := by
  have read := readNumber_integerDigits least most ends
  obtain ⟨character, others, same, kind⟩ := head_integerDigits number
  rw [same, List.cons_append] at read ⊢
  exact tokens_number kind read

/-! ## Runs of the reader -/

def readFrom? (depthLimit : Nat) (state : ReaderState) (text : List Char) : Option ReaderState :=
  (tokens text).bind fun list => list.foldlM (ReaderState.step? depthLimit) state

theorem read?_eq (depthLimit : Nat) (text : String) :
    read? depthLimit text =
      (readFrom? depthLimit .initial text.toList).bind ReaderState.result? := by
  rw [read?, readFrom?, Option.bind_assoc]

variable {depthLimit : Nat}

theorem readFrom?_token {text rest : List Char} {token : Token}
    (first : tokens text = (tokens rest).map (token :: ·)) (state : ReaderState) :
    readFrom? depthLimit state text =
      (state.step? depthLimit token).bind fun next => readFrom? depthLimit next rest := by
  unfold readFrom?
  rw [first]
  cases tokens rest with
  | none => cases state.step? depthLimit token <;> rfl
  | some list => rfl

def Token.mark? : Token → Option Char
  | .openArray => some '['
  | .closeArray => some ']'
  | .openObject => some '\x7b'
  | .closeObject => some '\x7d'
  | .comma => some ','
  | .colon => some ':'
  | .scalar _ => none

theorem readFrom?_mark (token : Token) {mark : Char} (isMark : token.mark? = some mark)
    (state : ReaderState) (rest : List Char) :
    readFrom? depthLimit state (mark :: rest) =
      (state.step? depthLimit token).bind fun next => readFrom? depthLimit next rest := by
  apply readFrom?_token
  cases token with
  | scalar => cases isMark
  | _ => cases isMark; rw [tokens]

theorem readFrom?_space {character : Char} (space : isSpace character = true)
    (state : ReaderState) (rest : List Char) :
    readFrom? depthLimit state (character :: rest) = readFrom? depthLimit state rest := by
  unfold readFrom?
  rw [tokens_space space]

theorem readFrom?_newLine (level : Nat) (state : ReaderState) (rest : List Char) :
    readFrom? depthLimit state (newLine level ++ rest) = readFrom? depthLimit state rest := by
  rw [newLine, List.cons_append, readFrom?_space rfl]
  induction 2 * level with
  | zero => rfl
  | succ width ih => rw [List.replicate_succ, List.cons_append, readFrom?_space rfl, ih]

def ReaderState.Awaits (depthLimit : Nat) (state : ReaderState) (stack : List Frame) : Prop :=
  ∀ token, token ≠ .closeArray → state.step? depthLimit token = beginValue? depthLimit stack token

theorem awaits_value (stack : List Frame) :
    ReaderState.Awaits depthLimit ⟨stack, .value⟩ stack := fun _ _ => rfl

theorem awaits_firstItem (stack : List Frame) :
    ReaderState.Awaits depthLimit ⟨stack, .firstItem⟩ (.array [] :: stack) := by
  intro token notClosed
  cases token with
  | closeArray => exact absurd rfl notClosed
  | _ => rfl

def ReaderState.ExpectsName (depthLimit : Nat) (state : ReaderState) (stack : List Frame)
    (fields : List (String × Value)) : Prop :=
  ∀ name, state.step? depthLimit (.scalar (.string name)) = some ⟨stack, .colon fields name⟩

theorem expectsName_name (stack : List Frame) (fields : List (String × Value)) :
    ReaderState.ExpectsName depthLimit ⟨stack, .name fields⟩ stack fields := fun _ => rfl

theorem expectsName_firstName (stack : List Frame) :
    ReaderState.ExpectsName depthLimit ⟨stack, .firstName⟩ stack [] := fun _ => rfl

/--
The reader goes over the text of the value, from every state in which a value may start, to the
state after it.
-/
def Passes (depthLimit : Nat) (value : Value) : Prop :=
  ∀ (level : Nat) (rest : List Char) (state : ReaderState) (stack : List Frame),
    EndsNumber rest → state.Awaits depthLimit stack → stack.length + value.depth ≤ depthLimit →
    readFrom? depthLimit state (prettyText level value ++ rest) =
      readFrom? depthLimit ⟨stack, .after value⟩ rest

theorem readFrom?_scalar {text rest : List Char} {value : Value}
    (first : tokens text = (tokens rest).map (.scalar value :: ·)) {state : ReaderState}
    {stack : List Frame} (awaits : state.Awaits depthLimit stack) :
    readFrom? depthLimit state text = readFrom? depthLimit ⟨stack, .after value⟩ rest := by
  rw [readFrom?_token first, awaits _ (by simp)]
  rfl

theorem endsNumber_comma (rest : List Char) : EndsNumber (',' :: rest) := by
  simp [EndsNumber, isDecimalDigit]

theorem endsNumber_newLine (level : Nat) (rest : List Char) :
    EndsNumber (newLine level ++ rest) := by
  simp [EndsNumber, newLine, isDecimalDigit]

theorem readFrom?_prettyItems {items : List Value} (nonempty : items ≠ [])
    (each : ∀ item ∈ items, Passes depthLimit item) (level : Nat) (rest : List Char)
    {state : ReaderState} {done : List Value} {stack : List Frame}
    (awaits : state.Awaits depthLimit (.array done :: stack))
    (fits : stack.length + 1 + Value.depthItems items ≤ depthLimit) :
    readFrom? depthLimit state
        (prettyItems (level + 1) items ++ (newLine level ++ ']' :: rest)) =
      readFrom? depthLimit ⟨stack, .after (.array (done.reverse ++ items))⟩ rest := by
  induction items generalizing state done with
  | nil => exact absurd rfl nonempty
  | cons item items ih =>
      rw [Value.depthItems] at fits
      have passes {following : List Char} (ends : EndsNumber following) :
          readFrom? depthLimit state (prettyText (level + 1) item ++ following) =
            readFrom? depthLimit ⟨.array done :: stack, .after item⟩ following :=
        each item List.mem_cons_self _ _ _ _ ends awaits (by rw [List.length_cons]; omega)
      cases items with
      | nil =>
          rw [prettyItems, List.append_assoc, readFrom?_newLine,
            passes (endsNumber_newLine level _), readFrom?_newLine, readFrom?_mark .closeArray rfl]
          simp [ReaderState.step?, closeArray?]
      | cons next items =>
          have further := ih (by simp) (fun other member => each other (.tail _ member))
            (awaits_value (.array (item :: done) :: stack)) (by omega)
          generalize following : prettyItems (level + 1) (next :: items) ++
            (newLine level ++ ']' :: rest) = text at further
          rw [prettyItems_cons_cons, List.append_assoc, List.append_assoc,
            List.append_assoc, following, readFrom?_newLine, List.singleton_append,
            passes (endsNumber_comma _), readFrom?_mark .comma rfl]
          simpa [ReaderState.step?, continue?] using further

theorem passes_array {items : List Value} (each : ∀ item ∈ items, Passes depthLimit item) :
    Passes depthLimit (.array items) := by
  intro level rest state stack _ awaits fits
  rw [Value.depth] at fits
  have opening (following : List Char) : readFrom? depthLimit state ('[' :: following) =
      readFrom? depthLimit ⟨stack, .firstItem⟩ following := by
    rw [readFrom?_mark .openArray rfl, awaits _ (by simp), beginValue?, if_pos (by omega)]
    rfl
  cases items with
  | nil =>
      rw [prettyText, List.cons_append, opening, List.singleton_append,
        readFrom?_mark .closeArray rfl]
      rfl
  | cons item items =>
      rw [prettyText_array_cons]
      simp only [List.append_assoc, List.cons_append, List.nil_append]
      rw [opening]
      exact readFrom?_prettyItems (by simp) each level rest (awaits_firstItem stack) (by omega)

theorem readFrom?_field (name : String) {value : Value} (passes : Passes depthLimit value)
    (level : Nat) {following : List Char} (ends : EndsNumber following) {state : ReaderState}
    {done : List (String × Value)} {stack : List Frame}
    (expects : state.ExpectsName depthLimit stack done)
    (fits : stack.length + 1 + value.depth ≤ depthLimit) :
    readFrom? depthLimit state
        (stringText name ++ ([':', ' '] ++ (prettyText level value ++ following))) =
      readFrom? depthLimit ⟨.object done name :: stack, .after value⟩ following := by
  rw [readFrom?_token (tokens_stringText name _), expects, Option.bind_some, List.cons_append,
    readFrom?_mark .colon rfl]
  simp only [ReaderState.step?, Option.bind_some]
  rw [List.singleton_append, readFrom?_space rfl]
  exact passes _ _ _ _ ends (awaits_value _) (by rw [List.length_cons]; omega)

theorem readFrom?_prettyFields {fields : List (String × Value)} (nonempty : fields ≠ [])
    (each : ∀ field ∈ fields, Passes depthLimit field.2) (level : Nat) (rest : List Char)
    {state : ReaderState} {done : List (String × Value)} {stack : List Frame}
    (expects : state.ExpectsName depthLimit stack done)
    (fits : stack.length + 1 + Value.depthFields fields ≤ depthLimit) :
    readFrom? depthLimit state
        (prettyFields (level + 1) fields ++ (newLine level ++ '\x7d' :: rest)) =
      readFrom? depthLimit ⟨stack, .after (.object (done.reverse ++ fields))⟩ rest := by
  induction fields generalizing state done with
  | nil => exact absurd rfl nonempty
  | cons field fields ih =>
      obtain ⟨name, value⟩ := field
      rw [Value.depthFields] at fits
      have passes {following : List Char} (ends : EndsNumber following) :=
        readFrom?_field name (each (name, value) List.mem_cons_self) (level + 1) ends expects
          (by dsimp only; omega)
      cases fields with
      | nil =>
          rw [prettyFields]
          simp only [List.append_assoc]
          rw [readFrom?_newLine, passes (endsNumber_newLine level _), readFrom?_newLine,
            readFrom?_mark .closeObject rfl]
          simp [ReaderState.step?, closeObject?]
      | cons next fields =>
          have further := ih (by simp) (fun other member => each other (.tail _ member))
            (expectsName_name stack ((name, value) :: done)) (by omega)
          generalize following : prettyFields (level + 1) (next :: fields) ++
            (newLine level ++ '\x7d' :: rest) = text at further
          rw [prettyFields_cons_cons]
          simp only [List.append_assoc]
          rw [following, readFrom?_newLine, List.singleton_append, passes (endsNumber_comma _),
            readFrom?_mark .comma rfl]
          simpa [ReaderState.step?, continue?] using further

theorem passes_object {fields : List (String × Value)}
    (each : ∀ field ∈ fields, Passes depthLimit field.2) : Passes depthLimit (.object fields) := by
  intro level rest state stack _ awaits fits
  rw [Value.depth] at fits
  have opening (following : List Char) : readFrom? depthLimit state ('\x7b' :: following) =
      readFrom? depthLimit ⟨stack, .firstName⟩ following := by
    rw [readFrom?_mark .openObject rfl, awaits _ (by simp), beginValue?, if_pos (by omega)]
    rfl
  cases fields with
  | nil =>
      rw [prettyText, List.cons_append, opening, List.singleton_append,
        readFrom?_mark .closeObject rfl]
      rfl
  | cons field fields =>
      rw [prettyText_object_cons]
      simp only [List.append_assoc, List.cons_append, List.nil_append]
      rw [opening]
      exact readFrom?_prettyFields (by simp) each level rest (expectsName_firstName stack)
        (by omega)

theorem passes_of_isExact {value : Value} (exact : value.IsExact) : Passes depthLimit value := by
  induction exact with
  | null =>
      intro _ _ _ _ _ awaits _
      exact readFrom?_scalar (by simp [prettyText, nullText, tokens]) awaits
  | bool flag =>
      intro _ _ _ _ _ awaits _
      exact readFrom?_scalar (by cases flag <;> simp [prettyText, boolText, tokens]) awaits
  | int least most =>
      intro _ _ _ _ ends awaits _
      rw [prettyText]
      exact readFrom?_scalar (tokens_integerDigits least most ends) awaits
  | string text =>
      intro _ rest _ _ _ awaits _
      rw [prettyText]
      exact readFrom?_scalar (tokens_stringText text rest) awaits
  | array _ each => exact passes_array each
  | object _ each => exact passes_object each

/-- A value is read back from its pretty text, with a line break after it. -/
theorem read?_pretty {value : Value} (exact : value.IsExact) (fits : value.depth ≤ depthLimit) :
    read? depthLimit (pretty value ++ "\n") = some value := by
  have passes := passes_of_isExact exact 0 ['\n'] .initial [] (endsNumber_newLine 0 [])
    (awaits_value []) (by simpa using fits)
  have ended : readFrom? depthLimit ⟨[], .after value⟩ ['\n'] = some ⟨[], .after value⟩ := by
    rw [readFrom?_space rfl, readFrom?, tokens]
    rfl
  have text : (pretty value ++ "\n").toList = prettyText 0 value ++ ['\n'] := by
    simp [pretty]
  rw [read?_eq, text, passes, ended]
  rfl

end Json

end ScriptLint
