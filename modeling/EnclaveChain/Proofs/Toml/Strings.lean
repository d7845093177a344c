import EnclaveChain.Proofs.Toml.Grammar
import EnclaveChain.Toml.Text

/-!
# Reading strings

What is written for a string is read as the characters that it stands for, whatever is written after
the closing quotes; only behind an empty string between double quotes, or behind three closing
quotes, must no further quote follow (`SpellsString.anyString`). The two readers between double
quotes differ in what they do with quotes and line ends, but take escapes in the same way, which is
a property of a reader of its own (`TakesEscapes`).
-/
namespace EnclaveChain.Toml

/-! ### Characters -/

/-- The reader knows the blanks. -/
theorem isBlank_iff {char : Char} : isBlank char = true ↔ char ∈ blanks := by
  simp [isBlank, blanks]

/-- The reader knows which characters stand for themselves. -/
theorem isPlain_iff {char : Char} : isPlain char = true ↔ StandsForItself char := by
  have order : ' ' ≤ char ↔ 0x20 ≤ char.toNat := UInt32.le_iff_toNat_le
  simp [isPlain, StandsForItself, order]

/-- No line end stands for itself. -/
theorem StandsForItself.ne_newline {char : Char} (itself : StandsForItself char) :
    char ≠ '\n' ∧ char ≠ '\r' := by
  constructor <;> rintro rfl <;> exact absurd itself (by decide)

/-! ### Escapes -/

/-- The reader knows the digits of an escape by number. -/
theorem hexValue?_of_isDigit {char : Char} {value : Nat} (isDigit : Hex.IsDigit char value) :
    hexValue? char = some value := by
  let check (value : Nat) (char : Char) : Bool := hexValue? char = some value
  have known : check value char = true := isDigit.of_checked (by decide)
  exact of_decide_eq_true known

/-- The reader knows the letters of escapes, none of which is a blank or marks a number. -/
theorem escaped?_of_mem {letter char : Char} (listed : (letter, char) ∈ escapes) :
    escaped? letter = some char ∧ letter ∉ ['u', 'U', '\n', '\r', ' ', '\t'] := by
  have known : ∀ escape ∈ escapes, escaped? escape.1 = some escape.2 ∧
      escape.1 ∉ ['u', 'U', '\n', '\r', ' ', '\t'] := forall_of_all (by decide)
  exact known _ listed

/-- Every character has a number. -/
theorem charOf?_toNat (char : Char) : charOf? char.toNat = some char := by
  rw [charOf?, if_pos (show char.toNat.isValidChar from char.valid), Char.ofNat_toNat]

/-- What the readers between double quotes have in common: escapes. -/
structure TakesEscapes (read : Pending → Scan (List Char)) : Prop where
  /-- A letter is looked up. -/
  letter : ∀ {letter char : Char}, (letter, char) ∈ escapes → ∀ rest,
    read .escape (letter :: rest) = before char (read .nothing rest)
  /-- Four digits are to come. -/
  short : ∀ rest, read .escape ('u' :: rest) = read (.code 4 0) rest
  /-- Eight digits are to come. -/
  long : ∀ rest, read .escape ('U' :: rest) = read (.code 8 0) rest
  /-- More digits are to come. -/
  digit : ∀ {left value : Nat} {digit : Char} {pending : Pending},
    codeDigit left value digit = some (.inl pending) → ∀ rest,
      read (.code left value) (digit :: rest) = read pending rest
  /-- No more digits are to come. -/
  last : ∀ {left value : Nat} {digit char : Char}, codeDigit left value digit = some (.inr char) →
    ∀ rest, read (.code left value) (digit :: rest) = before char (read .nothing rest)

/-- The reader of one line takes escapes. -/
theorem takesEscapes_basicString : TakesEscapes basicString where
  letter listed rest := by
    obtain ⟨known, others⟩ := escaped?_of_mem listed
    simp only [List.mem_cons, not_or] at others
    rw [basicString.eq_7 _ _ others.1 others.2.1, known]
  short _ := rfl
  long _ := rfl
  digit found rest := by simp only [basicString, found]
  last found rest := by simp only [basicString, found]

/-- The reader of several lines takes escapes. -/
theorem takesEscapes_longBasicString : TakesEscapes longBasicString where
  letter listed rest := by
    obtain ⟨known, others⟩ := escaped?_of_mem listed
    simp only [List.mem_cons, not_or] at others
    obtain ⟨notShort, notLong, notNewline, notReturn, notSpace, notTab, -⟩ := others
    rw [longBasicString.eq_11 _ _ notShort notLong notNewline fun _ same => (notReturn same).elim,
      if_neg (by simp [isBlank, notSpace, notTab]), known]
  short _ := rfl
  long _ := rfl
  digit found rest := by simp only [longBasicString, found]
  last found rest := by simp only [longBasicString, found]

namespace TakesEscapes

variable {read : Pending → Scan (List Char)}

/-- The digits of a number are read to the last as the character of the number. -/
theorem read_code (takes : TakesEscapes read) {digits : List Char} {values : List Nat}
    (areDigits : List.Forall₂ Hex.IsDigit digits values) (notEmpty : digits ≠ []) {char : Char}
    (rest : List Char) : ∀ {value : Nat},
      char.toNat = values.foldl (fun value digit => 16 * value + digit) value →
      read (.code digits.length value) (digits ++ rest) = before char (read .nothing rest) := by
  induction areDigits with
  | nil => exact absurd rfl notEmpty
  | @cons digit value digits values isDigit others ih =>
    intro sum spelled
    match digits, values, others with
    | [], [], .nil =>
      have number : 16 * sum + value = char.toNat := spelled.symm
      refine takes.last ?_ rest
      simp [codeDigit, hexValue?_of_isDigit isDigit, number, charOf?_toNat]
    | next :: digits, _ :: _, others =>
      have more : codeDigit (digits.length + 2) sum digit =
          some (.inl (.code (digits.length + 1) (16 * sum + value))) := by
        simp [codeDigit, hexValue?_of_isDigit isDigit]
      exact (takes.digit more _).trans (ih (List.cons_ne_nil _ _) spelled)

/-- An escape is read as its character. -/
theorem read_escape (takes : TakesEscapes read) {escape : List Char} {char : Char}
    (escaped : SpellsEscape escape char) : ∃ marked, escape = '\\' :: marked ∧ ∀ rest,
      read .escape (marked ++ rest) = before char (read .nothing rest) := by
  have horner (values : List Nat) : Nat.ofDigits 16 values.reverse =
      values.foldl (fun value digit => 16 * value + digit) 0 := by
    rw [Nat.ofDigits_eq_foldr, List.foldr_reverse]
    simp only [Nat.cast_id, Nat.add_comm]
  cases escaped with
  | letter listed => exact ⟨_, rfl, takes.letter listed⟩
  | @short digits _ four spelled =>
    obtain ⟨values, areDigits, number⟩ := spelled
    refine ⟨_, rfl, fun rest => ?_⟩
    rw [List.cons_append, takes.short, ← four]
    exact takes.read_code areDigits (by rintro rfl; cases four) rest (number.trans (horner values))
  | @long digits _ eight spelled =>
    obtain ⟨values, areDigits, number⟩ := spelled
    refine ⟨_, rfl, fun rest => ?_⟩
    rw [List.cons_append, takes.long, ← eight]
    exact takes.read_code areDigits (by rintro rfl; cases eight) rest (number.trans (horner values))

end TakesEscapes

/-! ### Strings of one line -/

/-- Between double quotes the reader finds what is meant. -/
theorem SpellsBasic.read {written meant : List Char} (spelled : SpellsBasic written meant)
    (rest : List Char) : basicString .nothing (written ++ '"' :: rest) = some (meant, rest) := by
  induction spelled with
  | nil => rfl
  | @plain char written meant itself notQuote notBackslash _ read =>
    rw [List.cons_append, basicString.eq_4 _ _ notQuote notBackslash,
      if_pos (isPlain_iff.mpr itself), read]
    rfl
  | escape escaped _ read =>
    obtain ⟨marked, rfl, taken⟩ := takesEscapes_basicString.read_escape escaped
    rw [List.cons_append, List.cons_append, List.append_assoc]
    exact (taken _).trans (by rw [read]; rfl)

/-- Between single quotes the reader finds what is written. -/
theorem AreLiteral.read {chars : List Char} (literal : AreLiteral chars)
    (rest : List Char) : literalString (chars ++ '\'' :: rest) = some (chars, rest) := by
  induction chars with
  | nil => rfl
  | cons char chars read =>
    obtain ⟨⟨itself, notQuote⟩, others⟩ := List.forall_mem_cons.mp literal
    rw [List.cons_append, literalString.eq_3 _ _ notQuote, if_pos (isPlain_iff.mpr itself),
      read others]
    rfl

/-! ### Strings of several lines -/

/-- Up to two quotes in front of something else are all part of the string. -/
theorem closing_replicate {quote : Char} {count : Nat} (few : count ≤ 2) {rest : List Char}
    (ends : rest.head? ≠ some quote) :
    closing quote (List.replicate count quote ++ rest) = (List.replicate count quote, rest) := by
  match count, rest with
  | 0, [] => rfl
  | 1, [] | 2, _ => simp [closing, List.replicate_succ]
  | 0, [next] | 0, next :: _ :: _ | 1, next :: _ =>
    have other : next ≠ quote := fun same => ends (congrArg some same)
    simp [closing, List.replicate_succ, other]

namespace SpellsLong

/-- The closing quotes are written. -/
theorem three_le_length {quote : Char} {folding : Bool} {written meant : List Char}
    (spelled : SpellsLong quote folding written meant) : 3 ≤ written.length := by
  induction spelled with
  | close => simp
  | quote _ _ ih | plain _ _ _ _ _ ih | newline _ _ ih | escape _ _ _ ih | fold _ _ _ _ ih
  | blank _ _ _ ih | folded _ _ _ ih => simp only [List.length_cons, List.length_append]; omega

/-- What is not at the front is not put there by what is written later. -/
theorem not_prefix_append {quote : Char} {folding : Bool} {written meant : List Char}
    (spelled : SpellsLong quote folding written meant) {start : List Char}
    (short : start.length ≤ 3) (absent : ¬start <+: written) (rest : List Char) :
    ¬start <+: written ++ rest := fun present =>
  absent (List.prefix_of_prefix_length_le present (List.prefix_append written rest)
    (Nat.le_trans short spelled.three_le_length))

end SpellsLong

/-- The state of the reader while it folds, or does not. -/
def stateOf (folding : Bool) : Pending := if folding then .hidden else .nothing

/-- Between three double quotes most characters stand for themselves. -/
theorem longBasicString_plain {folding : Bool} {char : Char} (itself : StandsForItself char)
    (notBackslash : char ≠ '\\') (kept : folding = true → char ∉ blanks) {rest : List Char}
    (notThree : char = '"' → ¬['"', '"'] <+: rest) :
    longBasicString (stateOf folding) (char :: rest) =
      before char (longBasicString .nothing rest) := by
  obtain ⟨notFeed, notReturn⟩ := itself.ne_newline
  have notClosed : ∀ others, char = '"' → rest = '"' :: '"' :: others → False :=
    fun others same quotes => notThree same ⟨others, quotes.symm⟩
  cases folding with
  | false =>
    exact (longBasicString.eq_6 _ _ notClosed notBackslash notFeed
      fun _ same _ => notReturn same).trans (if_pos (isPlain_iff.mpr itself))
  | true =>
    have notBlank : ¬isBlank char = true := fun blank => kept rfl (isBlank_iff.mp blank)
    exact (longBasicString.eq_20 _ _ notFeed (fun _ same _ => notReturn same) notBackslash
      notClosed).trans ((if_neg notBlank).trans (if_pos (isPlain_iff.mpr itself)))

/-- Between three single quotes most characters stand for themselves. -/
theorem longLiteralString_plain {char : Char} (itself : StandsForItself char) {rest : List Char}
    (notThree : char = '\'' → ¬['\'', '\''] <+: rest) :
    longLiteralString (char :: rest) = before char (longLiteralString rest) := by
  obtain ⟨notFeed, notReturn⟩ := itself.ne_newline
  have notClosed : ∀ others, char = '\'' → rest = '\'' :: '\'' :: others → False :=
    fun others same quotes => notThree same ⟨others, quotes.symm⟩
  exact (longLiteralString.eq_5 _ _ notClosed notFeed fun _ same _ => notReturn same).trans
    (if_pos (isPlain_iff.mpr itself))

/-- A backslash is noted, whether the reader folds or not. -/
theorem longBasicString_backslash (folding : Bool) (chars : List Char) :
    longBasicString (stateOf folding) ('\\' :: chars) = longBasicString .escape chars := by
  cases folding <;> rfl

/-- Blanks that a backslash precedes are passed up to the end of the line. -/
theorem longBasicString_lineEnd {blank newline : List Char} (areBlank : AreBlank blank)
    (ends : newline ∈ newlines) (rest : List Char) :
    longBasicString .lineEnd (blank ++ (newline ++ rest)) = longBasicString .hidden rest := by
  induction blank with
  | nil =>
    obtain rfl | rfl := mem_newlines.mp ends
    all_goals rfl
  | cons char blank read =>
    obtain ⟨isBlank, others⟩ := List.forall_mem_cons.mp areBlank
    obtain rfl | rfl := mem_blanks.mp isBlank
    all_goals exact read others

/-- A backslash at the end of a line begins to fold. -/
theorem longBasicString_escape {blank newline : List Char} (areBlank : AreBlank blank)
    (ends : newline ∈ newlines) (rest : List Char) :
    longBasicString .escape (blank ++ (newline ++ rest)) = longBasicString .hidden rest := by
  cases blank with
  | nil =>
    obtain rfl | rfl := mem_newlines.mp ends
    all_goals rfl
  | cons char blank =>
    obtain ⟨isBlank, others⟩ := List.forall_mem_cons.mp areBlank
    obtain rfl | rfl := mem_blanks.mp isBlank
    all_goals exact longBasicString_lineEnd others ends rest

namespace SpellsLong

/-- Between three double quotes the reader finds what is meant. -/
theorem read_basic {folding : Bool} {written meant : List Char}
    (spelled : SpellsLong '"' folding written meant) {rest : List Char}
    (ends : rest.head? ≠ some '"') :
    longBasicString (stateOf folding) (written ++ rest) = some (meant, rest) := by
  induction spelled with
  | @close folding count few =>
    have closed : longBasicString (stateOf folding) (List.replicate (count + 3) '"' ++ rest) =
        some (closing '"' (List.replicate count '"' ++ rest)) := by cases folding <;> rfl
    rw [closed, closing_replicate few ends]
  | quote notThree others read =>
    rw [List.cons_append, longBasicString_plain (by decide) (by decide) (fun _ => by decide)
      fun _ => others.not_prefix_append (by decide) notThree rest]
    exact congrArg (before '"') read
  | plain itself notQuote notBackslash kept _ read =>
    rw [List.cons_append, longBasicString_plain itself (notBackslash rfl) kept
      fun same => absurd same notQuote]
    exact congrArg (before _) read
  | newline ends _ read =>
    obtain rfl | rfl := mem_newlines.mp ends
    all_goals exact congrArg (before '\n') read
  | @escape _ _ char _ _ _ escaped _ read =>
    obtain ⟨marked, rfl, taken⟩ := takesEscapes_longBasicString.read_escape escaped
    rw [List.cons_append, List.cons_append, List.append_assoc, longBasicString_backslash, taken]
    exact congrArg (before char) read
  | fold _ areBlank ends _ read =>
    rw [List.cons_append, List.append_assoc, List.append_assoc, longBasicString_backslash,
      longBasicString_escape areBlank ends]
    exact read
  | blank _ blank _ read =>
    obtain rfl | rfl := mem_blanks.mp blank
    all_goals exact read
  | folded _ ends _ read =>
    obtain rfl | rfl := mem_newlines.mp ends
    all_goals exact read

/-- Between three single quotes the reader finds what is meant. -/
theorem read_literal {written meant : List Char} (spelled : SpellsLong '\'' false written meant)
    {rest : List Char} (ends : rest.head? ≠ some '\'') :
    longLiteralString (written ++ rest) = some (meant, rest) := by
  -- Nothing is folded between single quotes, so the flag stays as it is.
  generalize unfolded : false = folding at spelled
  induction spelled with
  | @close _ count few => exact congrArg some (closing_replicate few ends)
  | quote notThree others read =>
    rw [List.cons_append, longLiteralString_plain (by decide)
      fun _ => others.not_prefix_append (by decide) notThree rest]
    exact congrArg (before '\'') (read rfl)
  | plain itself notQuote _ _ _ read =>
    rw [List.cons_append, longLiteralString_plain itself fun same => absurd same notQuote]
    exact congrArg (before _) (read rfl)
  | newline ends _ read =>
    obtain rfl | rfl := mem_newlines.mp ends
    all_goals exact congrArg (before '\n') (read rfl)
  | escape double | fold double | blank double | folded double => cases double

end SpellsLong

/-! ### All strings -/

/-- A line end right after three quotes is passed. -/
theorem skipNewline_append {newline chars : List Char}
    (opened : newline ∈ newlines ∨ newline = [] ∧ ∀ newline ∈ newlines, ¬newline <+: chars) :
    skipNewline (newline ++ chars) = chars := by
  rcases opened with ends | ⟨rfl, none⟩
  · obtain rfl | rfl := mem_newlines.mp ends
    all_goals rfl
  · rw [List.nil_append, skipNewline]
    unfold newline?
    split
    · exact absurd ⟨_, rfl⟩ (none ['\n'] (by decide))
    · exact absurd ⟨_, rfl⟩ (none ['\r', '\n'] (by decide))
    · rfl

/-- A string of one line does not begin with a quote. -/
theorem SpellsBasic.head_ne {written meant : List Char} (spelled : SpellsBasic written meant) :
    written.head? ≠ some '"' := by
  cases spelled with
  | nil => nofun
  | plain _ notQuote => exact fun same => notQuote (Option.some.inj same)
  | escape escaped =>
    obtain ⟨marked, rfl, -⟩ := takesEscapes_basicString.read_escape escaped
    nofun

/-- A string between single quotes does not begin with one. -/
theorem AreLiteral.head_ne {chars : List Char} (literal : AreLiteral chars) :
    chars.head? ≠ some '\'' := by
  intro first
  exact (literal _ (List.mem_of_head? first)).2 rfl

/-- Two quotes around a string of one line are not three quotes. -/
theorem not_three {quote : Char} {inner rest : List Char} (first : inner.head? ≠ some quote)
    (ends : rest.head? ≠ some quote) (others : List Char) :
    inner ++ quote :: rest ≠ quote :: quote :: others := by
  cases inner with
  | nil =>
    intro same
    exact ends (by rw [(List.cons.inj same).2]; rfl)
  | cons char inner =>
    intro same
    exact first (congrArg some (List.cons.inj same).1)

namespace SpellsString

/-- A string begins with a quote. -/
theorem exists_quote {written : List Char} {text : String} (spelled : SpellsString written text) :
    ∃ quote ∈ ['"', '\''], ∃ others, written = quote :: others := by
  cases spelled with
  | basic => exact ⟨'"', by decide, _, rfl⟩
  | literal => exact ⟨'\'', by decide, _, rfl⟩
  | long listed => exact ⟨_, listed, _, rfl⟩

/-- In whichever way a string is written, the reader finds its text. -/
theorem read {written : List Char} {text : String} (spelled : SpellsString written text)
    {rest : List Char} (ends : ∀ quote ∈ ['"', '\''], rest.head? ≠ some quote) :
    anyString (written ++ rest) = some (text.toList, rest) := by
  cases spelled with
  | @basic written _ inner =>
    have short : ∀ others, written ++ '"' :: rest ≠ '"' :: '"' :: others :=
      not_three inner.head_ne (ends '"' (by decide))
    rw [List.cons_append, List.append_assoc]
    refine (anyString.eq_3 _ (fun others same => ?_) (fun others same => ?_)).trans
      (inner.read rest)
    · exact short others (List.cons.inj same).2
    · cases same
  | literal inner =>
    have short : ∀ others, text.toList ++ '\'' :: rest ≠ '\'' :: '\'' :: others :=
      not_three inner.head_ne (ends '\'' (by decide))
    rw [List.cons_append, List.append_assoc]
    refine (anyString.eq_3 _ (fun others same => ?_) (fun others same => ?_)).trans
      (inner.read rest)
    · cases same
    · exact short others (List.cons.inj same).2
  | @long quote newline written _ listed opened inner =>
    have skipped : skipNewline (newline ++ (written ++ rest)) = written ++ rest := by
      refine skipNewline_append (opened.imp_right fun ⟨empty, absent⟩ => ⟨empty, ?_⟩)
      intro newline ends
      have short : newline.length ≤ 3 := by
        obtain rfl | rfl := mem_newlines.mp ends
        all_goals decide
      exact inner.not_prefix_append short (absent newline ends) rest
    have noQuote : rest.head? ≠ some quote := ends quote listed
    obtain rfl | rfl : quote = '"' ∨ quote = '\'' := by simpa using listed
    · have opens : anyString ('"' :: '"' :: '"' :: (newline ++ written) ++ rest) =
          longBasicString .nothing (skipNewline (newline ++ written ++ rest)) := rfl
      rw [opens, List.append_assoc, skipped]
      exact inner.read_basic noQuote
    · have opens : anyString ('\'' :: '\'' :: '\'' :: (newline ++ written) ++ rest) =
          longLiteralString (skipNewline (newline ++ written ++ rest)) := rfl
      rw [opens, List.append_assoc, skipped]
      exact inner.read_literal noQuote

end SpellsString

end EnclaveChain.Toml
