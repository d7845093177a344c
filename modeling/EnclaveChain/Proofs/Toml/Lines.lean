import EnclaveChain.Proofs.Toml.Strings
import EnclaveChain.Toml.Document
import Mathlib.Data.List.TakeDrop

/-!
# Reading lines

A line is read as the statement that it makes, and lines are read one after the other, empty ones
skipped, up to whatever is written after them (`SpellsLines.statements`). A key ends where a
character follows that may not stand in one, so each lemma about a key says what comes next.
-/
namespace EnclaveChain.Toml

/-! ### Blanks and line ends -/

/-- Blanks are skipped. -/
theorem skipBlanks_append {before : List Char} (blank : AreBlank before) (chars : List Char) :
    skipBlanks (before ++ chars) = skipBlanks chars :=
  List.dropWhile_append_of_pos fun char inside => isBlank_iff.mpr (blank char inside)

/-- Nothing else is. -/
theorem skipBlanks_cons {char : Char} (notBlank : char ∉ blanks) (chars : List Char) :
    skipBlanks (char :: chars) = char :: chars :=
  List.dropWhile_cons_of_neg fun blank => notBlank (isBlank_iff.mp blank)

/-- Something other than a blank is not put in front by blanks. -/
theorem head_append_ne {before : List Char} (blank : AreBlank before) {char : Char}
    (notBlank : char ∉ blanks) {chars : List Char} (first : chars.head? ≠ some char) :
    (before ++ chars).head? ≠ some char := by
  cases before with
  | nil => exact first
  | cons next before =>
    intro same
    exact notBlank (Option.some.inj same ▸ blank next List.mem_cons_self)

/-- Blanks before a line are skipped. -/
theorem skipLines_append {before : List Char} (blank : AreBlank before) (chars : List Char) :
    skipLines false (before ++ chars) = skipLines false chars := by
  induction before with
  | nil => rfl
  | cons char before skipped =>
    obtain ⟨isBlank, others⟩ := List.forall_mem_cons.mp blank
    obtain rfl | rfl := mem_blanks.mp isBlank
    all_goals exact skipped others

/-- A line is not skipped. -/
theorem skipLines_cons {char : Char} (begins : char ∉ ['\n', '\r', ' ', '\t', '#'])
    (chars : List Char) : skipLines false (char :: chars) = char :: chars := by
  simp only [List.mem_cons, not_or] at begins
  obtain ⟨notFeed, notReturn, notSpace, notTab, notRemark, -⟩ := begins
  rw [skipLines.eq_4 _ _ _ (fun _ same _ => notReturn same) notFeed]
  simp [isBlank, notSpace, notTab, notRemark]

/-- A comment is skipped as far as it goes. -/
theorem skipLines_comment {inner : List Char} (remark : ∀ char ∈ inner, StandsForItself char)
    (chars : List Char) : skipLines true (inner ++ chars) = skipLines true chars := by
  induction inner with
  | nil => rfl
  | cons char inner skipped =>
    obtain ⟨itself, others⟩ := List.forall_mem_cons.mp remark
    obtain ⟨notFeed, notReturn⟩ := itself.ne_newline
    rw [List.cons_append, skipLines.eq_4 _ _ _ (fun _ same _ => notReturn same) notFeed, if_pos rfl,
      if_pos (isPlain_iff.mpr itself), skipped others]

namespace EndsLine

variable {chars after : List Char}

/-- The reader finds the end of a line. -/
theorem read (ends : EndsLine chars after) : endLine? chars = some after := by
  obtain ⟨before, remark, newline, rfl, blank, isRemark, line⟩ := ends
  have stops : skipComment (skipBlanks (before ++ (remark ++ (newline ++ after)))) =
      (newline ++ after).dropWhile isPlain := by
    rw [skipBlanks_append blank]
    rcases isRemark with rfl | ⟨inner, rfl, plain⟩
    · rcases line with listed | ⟨rfl, rfl⟩
      · obtain rfl | rfl := mem_newlines.mp listed
        all_goals rfl
      · rfl
    · exact List.dropWhile_append_of_pos fun char inside => isPlain_iff.mpr (plain char inside)
  rw [endLine?, stops]
  rcases line with listed | ⟨rfl, rfl⟩
  · obtain rfl | rfl := mem_newlines.mp listed
    all_goals rfl
  · rfl

/-- The end of a line is skipped. -/
theorem skip (ends : EndsLine chars after) : skipLines false chars = skipLines false after := by
  obtain ⟨before, remark, newline, rfl, blank, isRemark, line⟩ := ends
  have ended (comment : Bool) : skipLines comment (newline ++ after) = skipLines false after := by
    rcases line with listed | ⟨rfl, rfl⟩
    · obtain rfl | rfl := mem_newlines.mp listed
      all_goals rfl
    · rfl
  rw [skipLines_append blank]
  rcases isRemark with rfl | ⟨inner, rfl, plain⟩
  · exact ended false
  · exact (skipLines_comment plain _).trans (ended true)

/-- What is written after a line is written no earlier. -/
theorem length_le (ends : EndsLine chars after) : after.length ≤ chars.length := by
  obtain ⟨before, remark, newline, rfl, -⟩ := ends
  simp only [List.length_append]
  omega

/-- What is left of a line begins with a blank, a comment or its end. -/
theorem head_mem (ends : EndsLine chars after) {char : Char} (first : chars.head? = some char) :
    char ∈ [' ', '\t', '#', '\n', '\r'] := by
  obtain ⟨before, remark, newline, rfl, blank, isRemark, line⟩ := ends
  cases before with
  | cons next before =>
    obtain rfl : next = char := Option.some.inj first
    obtain rfl | rfl := mem_blanks.mp (blank next List.mem_cons_self)
    all_goals decide
  | nil =>
    rcases isRemark with rfl | ⟨inner, rfl, -⟩
    · rcases line with listed | ⟨rfl, rfl⟩
      · obtain rfl | rfl := mem_newlines.mp listed
        all_goals
          obtain rfl := Option.some.inj first
          decide
      · cases first
    · obtain rfl := Option.some.inj first
      decide

end EndsLine

/-! ### Keys -/

/-- The reader knows the characters of keys. -/
theorem isBare_iff {char : Char} : isBare char = true ↔ StandsInKey char := by
  simp [isBare, StandsInKey, or_assoc]

namespace SpellsKey

variable {written : List Char} {name : String}

/-- A key begins with a quote or with one of its characters. -/
theorem exists_first (spelled : SpellsKey written name) : ∃ first others,
    written = first :: others ∧ (first = '"' ∨ first = '\'' ∨ StandsInKey first) := by
  cases spelled with
  | bare notEmpty bare =>
    obtain ⟨first, others, same⟩ := List.exists_cons_of_ne_nil notEmpty
    exact ⟨first, others, same, .inr (.inr (bare first (same ▸ List.mem_cons_self)))⟩
  | basic => exact ⟨_, _, rfl, .inl rfl⟩
  | literal => exact ⟨_, _, rfl, .inr (.inl rfl)⟩

/-- A key does not begin like anything else. -/
theorem exists_cons (spelled : SpellsKey written name) : ∃ first others,
    written = first :: others ∧ first ∉ ['\n', '\r', ' ', '\t', '#', '[', '\ufeff'] := by
  obtain ⟨first, others, rfl, kind⟩ := spelled.exists_first
  refine ⟨first, others, rfl, fun listed => ?_⟩
  have other : ∀ char ∈ ['\n', '\r', ' ', '\t', '#', '[', '\ufeff'],
      ¬(char = '"' ∨ char = '\'' ∨ StandsInKey char) := forall_of_all (by decide)
  exact other first listed kind

/-- What begins with a key does not begin with a bracket. -/
theorem head_ne_bracket (spelled : SpellsKey written name) {before : List Char}
    (blank : AreBlank before) (chars : List Char) :
    (before ++ (written ++ chars)).head? ≠ some '[' := by
  obtain ⟨first, others, rfl, begins⟩ := spelled.exists_cons
  refine head_append_ne blank (by decide) fun bracket => ?_
  obtain rfl : first = '[' := Option.some.inj bracket
  exact begins (by decide)

/-- A key is read up to a character that may not stand in one. -/
theorem read (spelled : SpellsKey written name) {rest : List Char}
    (ends : ∀ char ∈ rest.head?, ¬StandsInKey char) :
    simpleKey (written ++ rest) = some (name, rest) := by
  cases spelled with
  | @basic written _ inner =>
    have read : shortString ('"' :: (written ++ '"' :: rest)) = some (name.toList, rest) :=
      inner.read rest
    rw [List.cons_append, List.append_assoc]
    simp [simpleKey, read]
  | literal inner =>
    have read : shortString ('\'' :: (name.toList ++ '\'' :: rest)) = some (name.toList, rest) :=
      inner.read rest
    rw [List.cons_append, List.append_assoc]
    simp [simpleKey, read]
  | bare notEmpty bare =>
    have known : ∀ char ∈ name.toList, isBare char = true := fun char inside =>
      isBare_iff.mpr (bare char inside)
    have taken : (name.toList ++ rest).span isBare = (name.toList, rest) := by
      rw [List.span_eq_takeWhile_dropWhile, List.takeWhile_append_of_pos known,
        List.dropWhile_append_of_pos known]
      cases rest with
      | nil => simp
      | cons char rest =>
        have stops : ¬isBare char = true := fun inside => ends char rfl (isBare_iff.mp inside)
        rw [List.takeWhile_cons_of_neg stops, List.dropWhile_cons_of_neg stops, List.append_nil]
    obtain ⟨first, others, same⟩ := List.exists_cons_of_ne_nil notEmpty
    have notQuote : ∀ quote ∈ ['"', '\''], ∀ tail, name.toList ++ rest ≠ quote :: tail := by
      intro quote listed tail begins
      rw [same] at begins bare
      have notBare : ∀ quote ∈ ['"', '\''], ¬StandsInKey quote := forall_of_all (by decide)
      exact notBare quote listed ((List.cons.inj begins).1 ▸ bare first List.mem_cons_self)
    unfold simpleKey
    split
    next tail begins => exact absurd begins (notQuote '"' (by decide) tail)
    next tail begins => exact absurd begins (notQuote '\'' (by decide) tail)
    next =>
      rw [taken]
      simp [same, ← String.toList_inj]

end SpellsKey

/-- What follows a key of one part up to a mark that may not stand in it. -/
theorem not_standsInKey {after : List Char} (blank : AreBlank after) {mark : Char}
    (ends : ¬StandsInKey mark) (rest : List Char) :
    ∀ char ∈ (after ++ mark :: rest).head?, ¬StandsInKey char := by
  cases after with
  | nil => simpa using ends
  | cons char after =>
    have other : ∀ char ∈ blanks, ¬StandsInKey char := forall_of_all (by decide)
    simpa using other char (blank char List.mem_cons_self)

/-- Blanks before a key are skipped. -/
theorem simpleKey_append {before written : List Char} (blank : AreBlank before) {name : String}
    (named : SpellsKey written name) {rest : List Char}
    (ends : ∀ char ∈ rest.head?, ¬StandsInKey char) :
    simpleKey (skipBlanks (before ++ (written ++ rest))) = some (name, rest) := by
  obtain ⟨first, others, same, begins⟩ := named.exists_cons
  have notBlank : first ∉ blanks := by
    have listed : ∀ char ∈ blanks, char ∈ ['\n', '\r', ' ', '\t', '#', '[', '\ufeff'] :=
      forall_of_all (by decide)
    exact fun blank => begins (listed first blank)
  rw [skipBlanks_append blank, same, List.cons_append, skipBlanks_cons notBlank,
    ← List.cons_append, ← same]
  exact named.read ends

/-- A key with blanks around it is read up to a mark. -/
theorem dottedKey_mark {before written after : List Char} (blankBefore : AreBlank before)
    {name : String} (named : SpellsKey written name) (blankAfter : AreBlank after) {mark : Char}
    (listed : mark ∈ ['=', ']']) (rest : List Char) :
    dottedKey maxDepth (before ++ (written ++ (after ++ mark :: rest))) =
      some ([name], mark :: rest) := by
  obtain ⟨ends, notBlank, notPoint⟩ : ¬StandsInKey mark ∧ mark ∉ blanks ∧ mark ≠ '.' := by
    have known : ∀ mark ∈ ['=', ']'], ¬StandsInKey mark ∧ mark ∉ blanks ∧ mark ≠ '.' :=
      forall_of_all (by decide)
    exact known mark listed
  rw [maxDepth, dottedKey,
    simpleKey_append blankBefore named (not_standsInKey blankAfter ends rest)]
  simp only [skipBlanks_append blankAfter, skipBlanks_cons notBlank]
  split
  next same => exact absurd (List.cons.inj same).1 notPoint
  next => rfl

/-! ### Lines -/

/-- A value that begins with a quote is a string. -/
theorem value_quote {quote : Char} (listed : quote ∈ ['"', '\'']) (depth : Nat)
    (chars : List Char) : value depth (quote :: chars) =
      (anyString (quote :: chars)).map fun (chars, rest) =>
        (.string (String.ofList chars), rest) := by
  obtain rfl | rfl : quote = '"' ∨ quote = '\'' := by simpa using listed
  all_goals cases depth <;> rfl

/-- In whichever way a string is written, it is read as a value. -/
theorem SpellsString.read_value {written : List Char} {text : String}
    (spelled : SpellsString written text) {rest after : List Char} (ends : EndsLine rest after)
    (depth : Nat) : value depth (written ++ rest) = some (.string text, rest) := by
  have noQuote : ∀ quote ∈ ['"', '\''], rest.head? ≠ some quote := by
    intro quote listed first
    have other : ∀ quote ∈ ['"', '\''], quote ∉ [' ', '\t', '#', '\n', '\r'] :=
      forall_of_all (by decide)
    exact other quote listed (ends.head_mem first)
  obtain ⟨quote, listed, others, same⟩ := spelled.exists_quote
  have read := spelled.read noQuote
  rw [same, List.cons_append] at read ⊢
  rw [value_quote listed, read]
  simp

/-- After a key and an equals sign a value is read. -/
theorem pair_append {key before : List Char} {name : String} (named : SpellsKey key name)
    (blank : AreBlank before) (item : Scan Value) (chars : List Char) :
    pair item (key ++ (before ++ '=' :: chars)) =
      (item (skipBlanks chars)).map fun (value, rest) => (([name], value), rest) := by
  have parts : dottedKey maxDepth (key ++ (before ++ '=' :: chars)) = some ([name], '=' :: chars) :=
    dottedKey_mark areBlank_nil named blank (by decide) chars
  rw [pair, parts]
  rfl

/-- The value may be a string. -/
theorem pair_string {key before blank written rest after : List Char} {name text : String}
    (named : SpellsKey key name) (blankBefore : AreBlank before) (blankAfter : AreBlank blank)
    (string : SpellsString written text) (ends : EndsLine rest after) :
    pair (value maxDepth) (key ++ (before ++ '=' :: (blank ++ (written ++ rest)))) =
      some (([name], .string text), rest) := by
  obtain ⟨quote, listed, others, same⟩ := string.exists_quote
  have notBlank : quote ∉ blanks := by
    have known : ∀ quote ∈ ['"', '\''], quote ∉ blanks := forall_of_all (by decide)
    exact known quote listed
  have begins : skipBlanks (blank ++ (written ++ rest)) = written ++ rest := by
    rw [skipBlanks_append blankAfter, same, List.cons_append, skipBlanks_cons notBlank]
  rw [pair_append named blankBefore, begins, string.read_value ends]
  rfl

/-- A line that begins with a key has a pair. -/
theorem statement_key {key : List Char} {name : String} (named : SpellsKey key name)
    (chars : List Char) : statement (key ++ chars) =
      (pair (value maxDepth) (key ++ chars)).bind fun ((path, value), rest) =>
        (endLine? rest).map fun rest => (.pair path value, rest) := by
  obtain ⟨first, others, rfl, begins⟩ := named.exists_cons
  have notHeader : first ≠ '[' := by
    rintro rfl
    exact begins (by decide)
  refine statement.eq_3 _ (fun _ same => ?_) (fun _ same => ?_)
  · exact notHeader (List.cons.inj same).1
  · exact notHeader (List.cons.inj same).1

/-- A line that begins with one bracket is a header of a table. -/
theorem statement_bracket {chars : List Char} (single : chars.head? ≠ some '[') :
    statement ('[' :: chars) = (dottedKey maxDepth chars).bind fun (path, rest) =>
      (closeHeader? [']'] rest).map fun rest => (.table path, rest) :=
  statement.eq_2 _ fun rest same => single (by rw [same]; rfl)

/-- The statement that a line makes. -/
def Line.statement : Line → Statement
  | .pair name text => .pair [name] (.string text)
  | .header name => .table [name]

namespace SpellsLine

variable {written : List Char} {line : Line}

/-- A line begins with a key or a bracket. -/
theorem exists_cons (spelled : SpellsLine written line) : ∃ first others,
    written = first :: others ∧ first ∉ ['\n', '\r', ' ', '\t', '#', '\ufeff'] := by
  cases spelled with
  | pair named =>
    obtain ⟨first, others, rfl, begins⟩ := named.exists_cons
    exact ⟨first, _, rfl, by simp_all⟩
  | header => exact ⟨'[', _, rfl, by decide⟩

/-- A line is read as its statement, up to its end. -/
theorem read (spelled : SpellsLine written line) {rest after : List Char}
    (ends : EndsLine rest after) : statement (written ++ rest) = some (line.statement, after) := by
  cases spelled with
  | pair named blankBefore blankAfter string =>
    simp only [List.append_assoc, List.cons_append]
    rw [statement_key named, pair_string named blankBefore blankAfter string ends]
    simp [ends.read, Line.statement]
  | @header before key blank name blankBefore named blankAfter =>
    have single : (before ++ (key ++ (blank ++ ']' :: rest))).head? ≠ some '[' :=
      named.head_ne_bracket blankBefore _
    have closed : closeHeader? [']'] (']' :: rest) = some after := by simp [closeHeader?, ends.read]
    simp only [List.append_assoc, List.cons_append, List.nil_append]
    rw [statement_bracket single, dottedKey_mark blankBefore named blankAfter (by decide)]
    simp [closed, Line.statement]

end SpellsLine

/-- Lines are read as far as something else is written. -/
theorem statements_skip {chars others : List Char}
    (same : skipLines false chars = skipLines false others) (lines : Nat) :
    statements (lines + 1) chars = statements (lines + 1) others := by
  rw [statements, statements, same]

namespace SpellsLines

variable {tail chars : List Char} {lines : List Line}

/-- Each line takes a character at least. -/
theorem length_le (spelled : SpellsLines tail chars lines) : lines.length ≤ chars.length := by
  induction spelled with
  | done => exact Nat.zero_le _
  | empty ends _ le => exact Nat.le_trans le ends.length_le
  | line _ spelled ends _ le =>
    obtain ⟨first, others, rfl, -⟩ := spelled.exists_cons
    have := ends.length_le
    simp only [List.length_cons, List.length_append]
    omega

/-- Lines are read as their statements, whatever is written after them. -/
theorem read (spelled : SpellsLines tail chars lines) (more : Nat) :
    statements (lines.length + (more + 1)) chars =
      (statements (more + 1) tail).map (lines.map Line.statement ++ ·) := by
  induction spelled with
  | done => simp
  | @empty chars after lines ends _ read =>
    rw [← read]
    exact statements_skip ends.skip (lines.length + more)
  | @line indent written rest after line lines blank spelled ends _ read =>
    obtain ⟨first, others, rfl, begins⟩ := spelled.exists_cons
    have found : skipLines false (indent ++ (first :: others ++ rest)) =
        first :: others ++ rest := by
      rw [skipLines_append blank, List.cons_append, skipLines_cons (by simp_all)]
    have step : statements (lines.length + (more + 1) + 1) (indent ++ (first :: others ++ rest)) =
        (statements (lines.length + (more + 1)) after).map (line.statement :: ·) := by
      rw [statements, found]
      exact (congrArg (Option.bind · _) (spelled.read ends)).trans
        (Option.bind_some _ _)
    rw [List.length_cons, Nat.add_right_comm, step, read, Option.map_map]
    rfl

/-- There are enough characters for all lines of a text. -/
theorem read_text (spelled : SpellsLines tail chars lines) : ∃ more,
    statements (chars.length + 1) chars =
      (statements (more + 1) tail).map (lines.map Line.statement ++ ·) := by
  refine ⟨chars.length - lines.length, ?_⟩
  have enough : chars.length + 1 = lines.length + (chars.length - lines.length + 1) := by
    have := spelled.length_le
    omega
  rw [enough, spelled.read]

/-- No mark is written in front of lines, unless in front of what follows them. -/
theorem head_ne_mark (spelled : SpellsLines tail chars lines)
    (tailed : tail.head? ≠ some '\ufeff') :
    chars.head? ≠ some '\ufeff' := by
  cases spelled with
  | done => exact tailed
  | empty ends => exact fun mark => absurd (ends.head_mem mark) (by decide)
  | line blank spelled =>
    obtain ⟨first, others, rfl, begins⟩ := spelled.exists_cons
    refine head_append_ne blank (by decide) fun mark => ?_
    obtain rfl : first = '\ufeff' := Option.some.inj mark
    exact begins (by decide)

end SpellsLines

/-- What does not begin with a mark is read as it is. -/
theorem skipMark_eq_self {chars : List Char} (first : chars.head? ≠ some '\ufeff') :
    skipMark chars = chars := by
  unfold skipMark
  split
  · exact absurd rfl first
  · rfl

end EnclaveChain.Toml
