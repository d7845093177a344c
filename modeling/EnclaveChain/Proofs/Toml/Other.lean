import EnclaveChain.Proofs.Toml.Kept

/-!
# Values that are no strings

What does not begin as a string does is not read as one (`value_other`), whatever else it may be. So
a document in which a name of the root has another value, parts or a table has no string for it in
the end, if it is read at all (`SpellsOther.read_hasOther`): nothing is asked of what is written
behind.
-/
namespace EnclaveChain.Toml

/-! ### Values -/

/-- Whether what is found of a value, if anything, is no string. -/
def FindsOther (found : Option (Value × List Char)) : Prop :=
  ∀ read ∈ found, read.1.isString = false

namespace FindsOther

variable {found other : Option (Value × List Char)}

/-- Nothing is found. -/
theorem none : FindsOther none := nofun

/-- Something is found. -/
theorem some {value : Value} (isOther : value.isString = false) (rest : List Char) :
    FindsOther (some (value, rest)) := by
  rintro read ⟨⟩
  exact isOther

/-- What is found does not depend on what is read first. -/
theorem bind {α : Type} {first : Option α} {next : α → Option (Value × List Char)}
    (each : ∀ read, FindsOther (next read)) : FindsOther (first.bind next) := by
  cases first with
  | none => exact none
  | some read => exact each read

/-- Only the text after it is read. -/
theorem map {α : Type} {first : Option α} {next : α → Value × List Char}
    (each : ∀ read, (next read).1.isString = false) : FindsOther (first.map next) := by
  cases first with
  | none => exact none
  | some read => exact some (each read) _

/-- Either of two is found. -/
theorem orElse (first : FindsOther found) (second : FindsOther other) :
    FindsOther (found.orElse fun _ => other) := by
  cases found with
  | none => exact second
  | some read => exact first

end FindsOther

/-- A date or time is no string. -/
theorem moment_other (text : List Char) : FindsOther (moment text) := by
  unfold moment
  split
  next => exact .map fun _ => rfl
  next => exact .some rfl _
  next =>
    split
    next =>
      split
      next => exact .map fun _ => rfl
      next => exact .some rfl _
    next => exact .some rfl _

/-- A real number in digits is no string. -/
theorem realDigits_other (text : List Char) : FindsOther (realDigits text) := by
  have real (large : Bool) (rest : List Char) :
      FindsOther (if large then Option.none else Option.some (.real, rest)) := by
    cases large
    · exact .some rfl rest
    · exact .none
  refine .bind fun whole => ?_
  dsimp only
  split
  next => exact real _ _
  next => exact .bind fun exponent => real _ _

/-- A real number by name is no string. -/
theorem realName_other (text : List Char) : FindsOther (realName text) := by
  unfold realName
  split
  next => exact .some rfl _
  next => exact .some rfl _
  next => exact .none

/-- An integer is no string. -/
theorem integer_other (text : List Char) : FindsOther (integer text) := by
  have word (negative : Bool) (digits : Nat) (rest : List Char) :
      FindsOther ((word? negative digits).map (·, rest)) := by
    unfold word?
    split
    next => exact .some rfl _
    next =>
      split
      next => exact .some rfl _
      next => exact .none
  unfold integer basedInteger
  split
  all_goals exact .bind fun _ => word _ _ _

/-- A value without parts is no string. -/
theorem scalar_other (text : List Char) : FindsOther (scalar text) := by
  unfold scalar
  split
  next => exact .some rfl _
  next => exact .some rfl _
  next => exact .orElse (moment_other text) (.orElse (realDigits_other text)
    (.orElse (realName_other text) (integer_other text)))

/-- What does not begin with a quote is no string. -/
theorem value_other {text : List Char} (begins : ∀ first ∈ text.head?, first ∉ ['"', '\''])
    (depth : Nat) : FindsOther (value depth text) := by
  have flat : FindsOther (value.flat text) := by
    unfold value.flat
    split
    next => exact absurd (by decide) (begins '"' rfl)
    next => exact absurd (by decide) (begins '\'' rfl)
    next => exact scalar_other text
  cases depth with
  | zero => exact flat
  | succ depth =>
    unfold value
    split
    next => exact .map fun _ => rfl
    next =>
      split
      next => exact .some rfl _
      next => exact .bind fun _ => .map fun _ => rfl
    next => exact flat

/-! ### Lines -/

/-- The path of a key begins with its first part. -/
theorem dottedKey_first {before key chars : List Char} {name : String} (blank : AreBlank before)
    (named : SpellsKey key name) (ends : ∀ next ∈ chars.head?, ¬StandsInKey next)
    {path : List String} {rest : List Char}
    (read : dottedKey maxDepth (before ++ (key ++ chars)) = some (path, rest)) :
    ∃ more, path = name :: more := by
  rw [maxDepth, dottedKey, simpleKey_append blank named ends] at read
  dsimp only at read
  split at read
  next =>
    obtain ⟨found, -, same⟩ := Option.map_eq_some_iff.mp read
    exact ⟨found.1, (congrArg Prod.fst same).symm⟩
  next => exact ⟨[], (congrArg Prod.fst (Option.some.inj read)).symm⟩

/-- A key has a part. -/
theorem dottedKey_ne_nil {parts : Nat} {text : List Char} {path : List String} {rest : List Char}
    (read : dottedKey parts text = some (path, rest)) : path ≠ [] := by
  cases parts with
  | zero => cases read
  | succ parts =>
    rw [dottedKey] at read
    split at read
    next => cases read
    next =>
      split at read
      next =>
        obtain ⟨found, -, same⟩ := Option.map_eq_some_iff.mp read
        obtain rfl := congrArg Prod.fst same
        exact List.cons_ne_nil _ _
      next =>
        obtain rfl := congrArg Prod.fst (Option.some.inj read)
        exact List.cons_ne_nil _ _

/-- The path of a key before a point has another part. -/
theorem dottedKey_point {key before chars : List Char} {name : String} (named : SpellsKey key name)
    (blank : AreBlank before) {path : List String} {rest : List Char}
    (read : dottedKey maxDepth (key ++ (before ++ '.' :: chars)) = some (path, rest)) :
    ∃ next more, path = name :: next :: more := by
  have key : simpleKey (skipBlanks (key ++ (before ++ '.' :: chars))) =
      some (name, before ++ '.' :: chars) :=
    simpleKey_append areBlank_nil named (not_standsInKey blank (by decide) chars)
  have begins : skipBlanks (before ++ '.' :: chars) = '.' :: chars := by
    rw [skipBlanks_append blank, skipBlanks_cons (by decide)]
  rw [maxDepth, dottedKey, key] at read
  simp only [begins] at read
  obtain ⟨⟨others, _⟩, found, same⟩ := Option.map_eq_some_iff.mp read
  obtain ⟨next, more, rfl⟩ := List.exists_cons_of_ne_nil (dottedKey_ne_nil found)
  exact ⟨next, more, (congrArg Prod.fst same).symm⟩

/-- The statement of a line does not depend on what is written after it. -/
theorem eq_of_map_end {after : Option (List Char)} {first found : Statement} {rest : List Char}
    (closed : (after.map fun rest => (first, rest)) = some (found, rest)) : found = first := by
  obtain ⟨_, -, same⟩ := Option.map_eq_some_iff.mp closed
  exact (congrArg Prod.fst same).symm

namespace SpellsOther

variable {name : String} {front : Bool} {chars : List Char}

/-- Where something other than a string is written for a name, the statement makes that. -/
theorem read (spelled : SpellsOther name front chars) {current : List String}
    (root : front = true → current = []) {statement : Statement} {rest : List Char}
    (read : Toml.statement chars = some (statement, rest)) : statement.Denies name current := by
  cases spelled with
  | @value key before after chars named blankBefore blankAfter other =>
    obtain rfl := root rfl
    have begins : skipBlanks (after ++ chars) = chars := by
      rw [skipBlanks_append blankAfter]
      cases chars with
      | nil => rfl
      | cons first => exact skipBlanks_cons (fun blank => other first rfl (by simp_all)) _
    rw [statement_key named, pair_append named blankBefore, begins] at read
    obtain ⟨⟨⟨path, found⟩, others⟩, paired, closed⟩ := Option.bind_eq_some_iff.mp read
    obtain ⟨⟨_, _⟩, valued, same⟩ := Option.map_eq_some_iff.mp paired
    cases same
    obtain rfl := eq_of_map_end closed
    refine .value (value_other (fun first head listed => ?_) maxDepth _ valued)
    exact other first head (by simp_all)
  | dotted named blank =>
    obtain rfl := root rfl
    rw [statement_key named] at read
    obtain ⟨⟨⟨path, found⟩, others⟩, paired, closed⟩ := Option.bind_eq_some_iff.mp read
    obtain ⟨⟨parts, _⟩, keyed, valued⟩ := Option.bind_eq_some_iff.mp paired
    obtain ⟨next, more, rfl⟩ := dottedKey_point named blank keyed
    dsimp only at valued
    split at valued
    next =>
      obtain ⟨_, -, same⟩ := Option.map_eq_some_iff.mp valued
      cases same
      obtain rfl := eq_of_map_end closed
      exact .dotted
    next => cases valued
  | table blank named ends =>
    rw [statement_bracket (named.head_ne_bracket blank _)] at read
    obtain ⟨⟨path, others⟩, found, closed⟩ := Option.bind_eq_some_iff.mp read
    obtain ⟨more, rfl⟩ := dottedKey_first blank named ends found
    obtain rfl := eq_of_map_end closed
    exact .table
  | element blank named ends =>
    obtain ⟨⟨path, others⟩, found, closed⟩ := Option.bind_eq_some_iff.mp read
    obtain ⟨more, rfl⟩ := dottedKey_first blank named ends found
    obtain rfl := eq_of_map_end closed
    exact .element

/-- It is not skipped. -/
theorem exists_cons (spelled : SpellsOther name front chars) : ∃ first others,
    chars = first :: others ∧ first ∉ ['\n', '\r', ' ', '\t', '#', '\ufeff'] := by
  cases spelled with
  | value named | dotted named =>
    obtain ⟨first, others, rfl, begins⟩ := named.exists_cons
    exact ⟨first, _, rfl, by simp_all⟩
  | table | element => exact ⟨'[', _, rfl, by decide⟩

end SpellsOther

/-- Pairs are put where they were put before. -/
theorem Draft.foldlM_pairs {lines : List Line} (pairs : ∀ line ∈ lines, line.isPair = true) :
    ∀ {draft later : Draft}, (lines.map Line.statement).foldlM Draft.extend draft = some later →
      later.current = draft.current := by
  induction lines with
  | nil =>
    intro draft later built
    obtain rfl := Option.some.inj built
    rfl
  | cons line lines kept =>
    intro draft later built
    obtain ⟨isPair, others⟩ := List.forall_mem_cons.mp pairs
    rw [List.map_cons, List.foldlM_cons] at built
    obtain ⟨middle, extended, built⟩ := Option.bind_eq_some_iff.mp built
    cases line with
    | header => cases isPair
    | pair =>
      obtain ⟨root, -, rfl⟩ := Option.map_eq_some_iff.mp extended
      have same : later.current = (Draft.mk root draft.current).current := kept others built
      exact same

/-- After lines and something other than a string for a name of the root, no text makes a table in
which the name has a string. -/
theorem SpellsOther.read_hasOther {name : String} {front : Bool} {other indent : List Char}
    (spelled : SpellsOther name front other) (blank : AreBlank indent) {lines : List Line}
    (root : front = true → ∀ line ∈ lines, line.isPair = true) {text : String}
    (before : SpellsLines (indent ++ other) text.toList lines) {table : Entries}
    (read : Toml.read text = some table) : table.HasOther name := by
  obtain ⟨first, others, rfl, begins⟩ := spelled.exists_cons
  have noMark : skipMark text.toList = text.toList := by
    refine skipMark_eq_self (before.head_ne_mark (head_append_ne blank (by decide) fun mark => ?_))
    obtain rfl : first = '\ufeff' := Option.some.inj mark
    exact begins (by decide)
  obtain ⟨more, lead⟩ := before.read_text
  -- Of the statements only those in front are known, and the next one as far as it goes.
  rw [Toml.read, noMark, lead] at read
  obtain ⟨all, found, built⟩ := Option.bind_eq_some_iff.mp read
  obtain ⟨later, run, rfl⟩ := Option.map_eq_some_iff.mp built
  obtain ⟨after, begun, rfl⟩ := Option.map_eq_some_iff.mp found
  rw [statements, skipLines_append blank, skipLines_cons (by simp_all)] at begun
  obtain ⟨⟨next, rest⟩, taken, followed⟩ := Option.bind_eq_some_iff.mp begun
  obtain ⟨_, -, rfl⟩ := Option.map_eq_some_iff.mp followed
  rw [List.foldlM_append] at run
  obtain ⟨draft, lead, behind⟩ := Option.bind_eq_some_iff.mp run
  refine (spelled.read (fun isFront => ?_) taken).foldlM_hasOther behind
  exact Draft.foldlM_pairs (root isFront) lead

end EnclaveChain.Toml
