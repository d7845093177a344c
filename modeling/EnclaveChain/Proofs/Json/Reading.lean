import EnclaveChain.Proofs.Json.Token

/-!
# The reader follows the grammar

Every JSON text is read as the tree that the grammar gives it. The reader learns that a value is
complete from its last character or, after a number, only from the next one, so the statement about
a value in the middle of a text is that the state after it cannot be told from the state with the
value delivered (`State.Settled`). Blanks keep that, and lists are put together from it by recursion
over the tree.
-/
namespace EnclaveChain.Json

open State

variable {stack : List Frame} {mode : Mode} {value : Tree} {spelled : List Char → Prop}

/-- Whether a value has been read: what may stand after it is taken, and the text may end, as if it
had been delivered. -/
structure State.Settled (state : State) (stack : List Frame) (value : Tree) : Prop where
  /-- The next character is taken. -/
  steps : ∀ {char}, Follows char → state.step char = (deliver stack value).step char
  /-- The text may end. -/
  finishes : state.finish = (deliver stack value).finish

/-- Whether a value is read from everything that spells it. -/
def Reads (spelled : List Char → Prop) (value : Tree) : Prop :=
  ∀ stack mode, mode.Opens → ∀ chars, spelled chars →
    (chars.foldl step ⟨stack, mode⟩).Settled stack value

/-! ### Blanks -/

/-- The reader knows the blanks. -/
theorem isBlank_of_mem : ∀ char ∈ blanks, isBlank char = true :=
  List.all_eq_true.mp (by decide)

/-- Blanks may stand before a value. -/
theorem step_opens_blank (opens : mode.Opens) {char : Char} (blank : char ∈ blanks) :
    step ⟨stack, mode⟩ char = ⟨stack, mode⟩ := by
  cases opens <;> simp only [step, between, isBlank_of_mem char blank, if_true]

/-- Blanks may stand after a value. -/
theorem step_deliver_blank {char : Char} (blank : char ∈ blanks) :
    step (deliver stack value) char = deliver stack value := by
  have isBlank := isBlank_of_mem char blank
  match stack with
  | [] | .array _ :: _ | .member _ _ :: _ => simp only [deliver, step, between, isBlank, if_true]
  | .object _ :: _ => cases value <;> simp only [deliver, step, between, isBlank, if_true]

/-- No number of blanks changes a state that one does not change. -/
theorem foldl_blanks {state : State} (stays : ∀ char ∈ blanks, step state char = state)
    {chars : List Char} (blank : AreBlank chars) : chars.foldl step state = state := by
  induction chars with
  | nil => rfl
  | cons char chars others =>
    rw [List.foldl_cons, stays char (blank char List.mem_cons_self)]
    exact others fun char listed => blank char (List.mem_cons_of_mem _ listed)

/-- A delivered value has been read. -/
theorem State.settled_deliver : (deliver stack value).Settled stack value := ⟨fun _ => rfl, rfl⟩

/-- Blanks after a value are no part of it. -/
theorem State.Settled.blanks {state : State} (settled : state.Settled stack value)
    {chars : List Char} (blank : AreBlank chars) :
    (chars.foldl step state).Settled stack value := by
  cases chars with
  | nil => exact settled
  | cons char chars =>
    have first : char ∈ Json.blanks := blank char List.mem_cons_self
    rw [List.foldl_cons, settled.steps (List.mem_append_left _ first), step_deliver_blank first,
      foldl_blanks (fun _ => step_deliver_blank)
        fun char listed => blank char (List.mem_cons_of_mem _ listed)]
    exact settled_deliver

/-- A value is read with blanks around it. -/
theorem Reads.padded (reads : Reads spelled value) : Reads (Padded spelled) value := by
  rintro stack mode opens _ ⟨before, middle, after, rfl, blankBefore, isSpelled, blankAfter⟩
  rw [List.foldl_append, List.foldl_append,
    foldl_blanks (fun _ => step_opens_blank opens) blankBefore]
  exact (reads stack mode opens middle isSpelled).blanks blankAfter

/-- A value is delivered when the character after it is read. -/
theorem Reads.foldl_append (reads : Reads spelled value) (opens : mode.Opens) {chars : List Char}
    (isSpelled : spelled chars) {char : Char} (follows : Follows char) (rest : List Char) :
    (chars ++ char :: rest).foldl step ⟨stack, mode⟩ =
      rest.foldl step (step (deliver stack value) char) := by
  rw [List.foldl_append, List.foldl_cons, (reads stack mode opens chars isSpelled).steps follows]

/-! ### Values without parts -/

/-- A value is read when its last character delivers it. -/
theorem reads_of_foldl (delivers : ∀ stack mode, mode.Opens → ∀ chars, spelled chars →
    chars.foldl step ⟨stack, mode⟩ = deliver stack value) : Reads spelled value := by
  intro stack mode opens chars isSpelled
  rw [delivers stack mode opens chars isSpelled]
  exact settled_deliver

/-- The word for no value is read. -/
theorem reads_null : Reads Tree.null.SpelledBy .null := by
  refine reads_of_foldl fun stack mode opens chars isSpelled => ?_
  rw [Tree.SpelledBy] at isSpelled
  subst isSpelled
  cases opens <;> rfl

/-- The words for truth values are read. -/
theorem reads_bool (truth : Bool) : Reads (Tree.bool truth).SpelledBy (.bool truth) := by
  refine reads_of_foldl fun stack mode opens chars isSpelled => ?_
  cases truth <;> rw [Tree.SpelledBy] at isSpelled <;> subst isSpelled <;> cases opens <;> rfl

/-- Strings are read. -/
theorem reads_string (text : String) : Reads (Tree.ofString text).SpelledBy (.ofString text) := by
  refine reads_of_foldl fun stack mode opens chars isSpelled => ?_
  rw [Tree.ofString, Tree.SpelledBy] at isSpelled
  obtain ⟨written, rfl, spells⟩ := isSpelled
  have opened : step ⟨stack, mode⟩ '"' = ⟨stack, .string []⟩ := by cases opens <;> rfl
  rw [List.foldl_cons, opened, spells.foldl_step_quoted]

/-- What is delivered is between tokens. -/
theorem between_deliver (char : Char) :
    between (deliver stack value) char = step (deliver stack value) char := by
  match stack with
  | [] | .array _ :: _ | .member _ _ :: _ => rfl
  | .object _ :: _ => cases value <;> rfl

/-- The text may end after a numeral as after its delivery. -/
theorem finish_number {draft : Draft} {stage : Stage} {numeral : Numeral}
    (ends : numeral? draft stage none = some numeral) :
    finish ⟨stack, .number draft stage⟩ = finish (deliver stack (.number numeral)) := by
  simp only [finish, ends]
  match stack with
  | [] | .array _ :: _ | .member _ _ :: _ | .object _ :: _ => rfl

/-- Numbers are read. -/
theorem reads_number (numeral : Numeral) :
    Reads (Tree.number numeral).SpelledBy (.number numeral) := by
  intro stack mode opens chars isSpelled
  rw [Tree.SpelledBy] at isSpelled
  rw [isSpelled.foldl_step opens]
  constructor
  · intro char follows
    have ends := isSpelled.numeral? (some char) follows.not_numeral.1
    rw [← between_deliver]
    simp only [step, extend_of_follows follows, ends]
  · exact finish_number (isSpelled.numeral? none rfl)

/-! ### Lists -/

/-- A closing bracket after blanks closes what was opened just now. -/
theorem foldl_empty {frame : Frame} {inner : List Char} (blank : AreBlank inner) {char : Char}
    (closes : char = ']' ∨ char = '\x7d') :
    (inner ++ [char]).foldl step ⟨frame :: stack, .opened⟩ = close (frame :: stack) char := by
  rw [List.foldl_append, foldl_blanks (fun _ => step_opens_blank .opened) blank]
  rcases closes with rfl | rfl <;> rfl

/-- A member is read when the character after its value is. -/
theorem foldl_member (reads : Reads value.SpelledBy value) (name : String)
    (members : List (Tree × Tree)) (opens : mode.Opens) {chars : List Char}
    (isSpelled :
      Separated ':' (Padded (Tree.ofString name).SpelledBy) (Padded value.SpelledBy) chars)
    {char : Char} (follows : Follows char) (rest : List Char) :
    (chars ++ char :: rest).foldl step ⟨.object members :: stack, mode⟩ =
      rest.foldl step
        (step ⟨.object ((.ofString name, value) :: members) :: stack, .separator⟩ char) := by
  obtain ⟨key, written, rfl, spelledKey, spelledValue⟩ := isSpelled
  have colon : Follows ':' := by decide
  rw [List.append_assoc, List.cons_append,
    (reads_string name).padded.foldl_append opens spelledKey colon]
  exact reads.padded.foldl_append .value spelledValue follows rest

mutual

/-- Every value is read. -/
theorem reads_tree : ∀ tree : Tree, Reads tree.SpelledBy tree
  | .null => reads_null
  | .bool truth => reads_bool truth
  | .number numeral => reads_number numeral
  | .string (some text) => reads_string text
  | .string none | .broken => fun _ _ _ _ isSpelled => by
    rw [Tree.SpelledBy] at isSpelled
    exact isSpelled.elim
  | .array items => reads_of_foldl fun stack mode opens chars isSpelled => by
    rw [Tree.SpelledBy] at isSpelled
    obtain ⟨inner, rfl, isSpelled⟩ := isSpelled
    have opened : step ⟨stack, mode⟩ '[' = ⟨.array [] :: stack, .opened⟩ := by cases opens <;> rfl
    rw [List.foldl_cons, opened, foldl_items items inner isSpelled .opened (fun _ => rfl)]
    rfl
  | .object members => reads_of_foldl fun stack mode opens chars isSpelled => by
    rw [Tree.SpelledBy] at isSpelled
    obtain ⟨inner, rfl, isSpelled⟩ := isSpelled
    have opened : step ⟨stack, mode⟩ '\x7b' = ⟨.object [] :: stack, .opened⟩ := by
      cases opens <;> rfl
    rw [List.foldl_cons, opened, foldl_members members inner isSpelled .opened (fun _ => rfl)]
    rfl

/-- All items up to the closing bracket are read. -/
theorem foldl_items {stack : List Frame} {mode : Mode} {before : List Tree} :
    ∀ (items : List Tree) (inner : List Char), itemsSpelledBy items inner → mode.Opens →
      (items = [] → mode = .opened) →
      (inner ++ [']']).foldl step ⟨.array before :: stack, mode⟩ =
        deliver stack (.array (before.reverse ++ items))
  | [], inner, isSpelled, _, mayClose => by
    rw [itemsSpelledBy] at isSpelled
    rw [mayClose rfl, foldl_empty isSpelled (.inl rfl), List.append_nil]
    rfl
  | [item], inner, isSpelled, opens, _ => by
    rw [itemsSpelledBy] at isSpelled
    have closes : Follows ']' := by decide
    rw [(reads_tree item).padded.foldl_append opens isSpelled closes]
    have closed : step (deliver (.array before :: stack) item) ']' =
        deliver stack (.array (item :: before).reverse) := rfl
    rw [closed, List.foldl_nil, List.reverse_cons]
  | item :: next :: items, inner, isSpelled, opens, _ => by
    rw [itemsSpelledBy] at isSpelled
    obtain ⟨first, others, rfl, spelledFirst, spelledOthers⟩ := isSpelled
    have separates : Follows ',' := by decide
    rw [List.append_assoc, List.cons_append,
      (reads_tree item).padded.foldl_append opens spelledFirst separates]
    have taken : step (deliver (.array before :: stack) item) ',' =
        ⟨.array (item :: before) :: stack, .value⟩ := rfl
    rw [taken, foldl_items (next :: items) others spelledOthers .value nofun, List.reverse_cons,
      ← List.append_cons]

/-- All members up to the closing brace are read. -/
theorem foldl_members {stack : List Frame} {mode : Mode} {before : List (Tree × Tree)} :
    ∀ (members : List (Tree × Tree)) (inner : List Char), membersSpelledBy members inner →
      mode.Opens → (members = [] → mode = .opened) →
      (inner ++ ['\x7d']).foldl step ⟨.object before :: stack, mode⟩ =
        deliver stack (.object (before.reverse ++ members))
  | [], inner, isSpelled, _, mayClose => by
    rw [membersSpelledBy] at isSpelled
    rw [mayClose rfl, foldl_empty isSpelled (.inr rfl), List.append_nil]
    rfl
  | [(key, value)], inner, isSpelled, opens, _ => by
    rw [membersSpelledBy] at isSpelled
    obtain ⟨⟨name, rfl⟩, isSpelled⟩ := isSpelled
    have closes : Follows '\x7d' := by decide
    rw [foldl_member (reads_tree value) name before opens isSpelled closes]
    have closed : step ⟨.object ((.ofString name, value) :: before) :: stack, .separator⟩ '\x7d' =
        deliver stack (.object ((.ofString name, value) :: before).reverse) := rfl
    rw [closed, List.foldl_nil, List.reverse_cons]
  | (key, value) :: next :: members, inner, isSpelled, opens, _ => by
    rw [membersSpelledBy] at isSpelled
    obtain ⟨⟨name, rfl⟩, first, others, rfl, spelledFirst, spelledOthers⟩ := isSpelled
    have separates : Follows ',' := by decide
    rw [List.append_assoc, List.cons_append,
      foldl_member (reads_tree value) name before opens spelledFirst separates]
    have taken : step ⟨.object ((.ofString name, value) :: before) :: stack, .separator⟩ ',' =
        ⟨.object ((.ofString name, value) :: before) :: stack, .value⟩ := rfl
    rw [taken, foldl_members (next :: members) others spelledOthers .value nofun,
      List.reverse_cons, ← List.append_cons]

end

/-- A JSON text is read as its value. -/
theorem Tree.IsValueOf.ofText {tree : Tree} {text : String} (valued : tree.IsValueOf text) :
    Document.ofText text = ⟨tree, true⟩ :=
  ((reads_tree tree).padded _ _ .value _ valued).finishes

/-- A text has one value. -/
theorem Tree.IsValueOf.unique {tree other : Tree} {text : String} (valued : tree.IsValueOf text)
    (another : other.IsValueOf text) : tree = other :=
  congrArg Document.tree (valued.ofText.symm.trans another.ofText)

/-! ### What is spelled has no broken part -/

/-- Something stands between the blanks. -/
theorem Padded.exists_spelled {chars : List Char} (padded : Padded spelled chars) :
    ∃ middle, spelled middle := by
  obtain ⟨_, middle, _, _, _, isSpelled, _⟩ := padded
  exact ⟨middle, isSpelled⟩

mutual

/-- A value that is spelled is JSON to its end. -/
theorem Tree.SpelledBy.isWhole : ∀ {tree : Tree} {chars : List Char}, tree.SpelledBy chars →
    tree.isWhole = true
  | .null, _, _ | .bool _, _, _ | .number _, _, _ | .string (some _), _, _ => rfl
  | .string none, _, isSpelled | .broken, _, isSpelled => by
    rw [Tree.SpelledBy] at isSpelled
    exact isSpelled.elim
  | .array items, _, isSpelled => by
    rw [Tree.SpelledBy] at isSpelled
    obtain ⟨_, _, isSpelled⟩ := isSpelled
    exact areWhole_of_spelledBy isSpelled
  | .object members, _, isSpelled => by
    rw [Tree.SpelledBy] at isSpelled
    obtain ⟨_, _, isSpelled⟩ := isSpelled
    exact membersAreWhole_of_spelledBy isSpelled

/-- Items that are spelled are JSON to their ends. -/
theorem areWhole_of_spelledBy : ∀ {items : List Tree} {inner : List Char},
    itemsSpelledBy items inner → areWhole items = true
  | [], _, _ => rfl
  | [item], _, padded => by
    rw [itemsSpelledBy] at padded
    obtain ⟨_, isSpelled⟩ := padded.exists_spelled
    rw [areWhole, isSpelled.isWhole, areWhole, Bool.and_true]
  | item :: next :: items, _, isSpelled => by
    rw [itemsSpelledBy] at isSpelled
    obtain ⟨_, _, _, padded, others⟩ := isSpelled
    obtain ⟨_, isSpelled⟩ := padded.exists_spelled
    rw [areWhole, isSpelled.isWhole, areWhole_of_spelledBy others, Bool.and_true]

/-- Members that are spelled are JSON to their ends. -/
theorem membersAreWhole_of_spelledBy : ∀ {members : List (Tree × Tree)} {inner : List Char},
    membersSpelledBy members inner → membersAreWhole members = true
  | [], _, _ => rfl
  | [(key, value)], _, isSpelled => by
    rw [membersSpelledBy] at isSpelled
    obtain ⟨⟨_, rfl⟩, _, _, _, _, padded⟩ := isSpelled
    obtain ⟨_, isSpelled⟩ := padded.exists_spelled
    rw [membersAreWhole, isSpelled.isWhole]
    rfl
  | (key, value) :: next :: members, _, isSpelled => by
    rw [membersSpelledBy] at isSpelled
    obtain ⟨⟨_, rfl⟩, _, _, _, ⟨_, _, _, _, padded⟩, others⟩ := isSpelled
    obtain ⟨_, isSpelled⟩ := padded.exists_spelled
    rw [membersAreWhole, isSpelled.isWhole, membersAreWhole_of_spelledBy others]
    rfl

end

/-- The value of a text is JSON to its end. -/
theorem Tree.IsValueOf.isWhole {tree : Tree} {text : String} (valued : tree.IsValueOf text) :
    tree.isWhole = true := by
  obtain ⟨_, isSpelled⟩ := Padded.exists_spelled valued
  exact isSpelled.isWhole

end EnclaveChain.Json
