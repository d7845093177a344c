import EnclaveChain.Proofs.Json.Grammar
import Mathlib.Data.Nat.Digits.Lemmas

/-!
# The writer follows the grammar

What is written for a tree spells the tree, for texts of any characters and numbers of any size.
Only trees that the grammar gives to some text can have that, so it is stated for the ways in which
such trees are made (`Tree.IsSpelled`): strings, natural numbers, and lists and records of parts
that have it.
-/
namespace EnclaveChain.Json

/-- Whether what is written for a tree spells it. -/
def Tree.IsSpelled (tree : Tree) : Prop := tree.SpelledBy tree.write

/-- No value is spelled. -/
@[simp]
theorem isSpelled_null : Tree.null.IsSpelled := rfl

/-! ### Strings -/

/-- Hexadecimal digits are written in lower case. -/
theorem isDigit_hexDigit : ∀ value < 16, Hex.IsDigit (hexDigit value) value := by decide

/-- A byte has the number that is written. -/
theorem spellsUnit_byte {value : Nat} (byte : value < 256) :
    SpellsUnit ['0', '0', hexDigit (value / 16), hexDigit (value % 16)] value := by
  have zero : Hex.IsDigit '0' 0 := by decide
  refine ⟨[0, 0, value / 16, value % 16], rfl, ?_, ?_⟩
  · exact .cons zero <| .cons zero <| .cons (isDigit_hexDigit _ (by omega)) <|
      .cons (isDigit_hexDigit _ (by omega)) .nil
  · simp only [List.reverse_cons, List.reverse_nil, List.nil_append, List.cons_append,
      Nat.ofDigits_cons, Nat.ofDigits_nil]
    omega

/-- A character is written so that it is meant. -/
theorem SpellsText.escapeChar (char : Char) {written meant : List Char}
    (others : SpellsText written meant) :
    SpellsText (Json.escapeChar char ++ written) (char :: meant) := by
  unfold Json.escapeChar
  split
  case h_8 notQuote notBackslash _ _ _ _ _ =>
    split
    · next control => exact .number (spellsUnit_byte (Nat.lt_trans control (by decide))) others
    · next plain => exact .plain notQuote notBackslash (Nat.not_lt.mp plain) others
  all_goals exact .letter (by decide) others

/-- Characters are written so that they are meant. -/
theorem spellsText_flatMap (chars : List Char) :
    SpellsText (chars.flatMap Json.escapeChar) chars := by
  induction chars with
  | nil => exact .nil
  | cons char chars others =>
    rw [List.flatMap_cons]
    exact others.escapeChar char

/-- Strings are spelled. -/
@[simp]
theorem isSpelled_ofString (text : String) : (Tree.ofString text).IsSpelled := by
  rw [Tree.IsSpelled, Tree.ofString, Tree.SpelledBy, Tree.write]
  exact ⟨_, rfl, spellsText_flatMap text.toList⟩

/-! ### Numbers -/

/-- The digits of a natural number are those of its decimal form. -/
theorem whole_ofNat (value : Nat) :
    (Numeral.ofNat value).whole = if value = 0 then [0] else (Nat.digits 10 value).reverse := by
  have digit : ∀ digit < 10, (Nat.digitChar digit).toNat - 48 = digit := by decide
  induction value using Nat.strongRecOn with
  | ind value smaller =>
    show (Nat.toDigits 10 value).map (fun char => char.toNat - 48) = _
    rw [Nat.toDigits_eq_if (by decide)]
    rcases Nat.lt_or_ge value 10 with small | large
    · rw [if_pos small, List.map_singleton, digit value small]
      rcases Nat.eq_zero_or_pos value with rfl | positive
      · rfl
      · rw [if_neg positive.ne', Nat.digits_of_lt 10 value positive.ne' small,
          List.reverse_singleton]
    · have shorter : (Nat.toDigits 10 (value / 10)).map (fun char => char.toNat - 48) = _ :=
        smaller (value / 10) (by omega)
      rw [if_neg (by omega)] at shorter
      rw [if_neg (by omega), if_neg (by omega), List.map_append, shorter, List.map_singleton,
        digit (value % 10) (by omega), Nat.digits_def' (by decide) (show 0 < value by omega),
        List.reverse_cons]

/-- Decimal digits are written as the grammar has them. -/
theorem writeDigits_eq {digits : List Nat} (small : ∀ digit ∈ digits, digit < 10) :
    writeDigits digits = digits.map Nat.digitChar := by
  have same : ∀ digit < 10, Char.ofNat (48 + digit) = Nat.digitChar digit := by decide
  exact List.map_congr_left fun digit listed => same digit (small digit listed)

/-- The numeral of a natural number has digits, and a zero only alone in front. -/
theorem spellsDigits_ofNat (value : Nat) :
    SpellsDigits (writeDigits (Numeral.ofNat value).whole) (Numeral.ofNat value).whole ∧
      ((Numeral.ofNat value).whole.head? = some 0 → (Numeral.ofNat value).whole = [0]) := by
  rw [whole_ofNat]
  rcases Nat.eq_zero_or_pos value with rfl | positive
  · exact ⟨⟨by decide, by decide, by decide⟩, fun _ => rfl⟩
  · rw [if_neg positive.ne']
    have nonempty : Nat.digits 10 value ≠ [] := Nat.digits_ne_nil_iff_ne_zero.mpr positive.ne'
    have small : ∀ digit ∈ (Nat.digits 10 value).reverse, digit < 10 := fun digit listed =>
      Nat.digits_lt_base (by decide) (List.mem_reverse.mp listed)
    refine ⟨⟨List.reverse_ne_nil_iff.mpr nonempty, small, writeDigits_eq small⟩, fun zero => ?_⟩
    rw [List.head?_reverse, List.getLast?_eq_some_getLast nonempty] at zero
    exact absurd (Option.some.inj zero) (Nat.getLast_digit_ne_zero 10 positive.ne')

/-- Natural numbers are spelled. -/
@[simp]
theorem isSpelled_ofNat (value : Nat) : (Tree.ofNat value).IsSpelled := by
  have written : (Tree.ofNat value).write = writeDigits (Numeral.ofNat value).whole := by
    simp [Tree.ofNat, Tree.write, Numeral.write, Numeral.ofNat]
  obtain ⟨digits, noLeadingZero⟩ := spellsDigits_ofNat value
  rw [Tree.IsSpelled, written, Tree.ofNat, Tree.SpelledBy]
  refine ⟨_, [], [], ?_, digits, noLeadingZero, rfl, rfl⟩
  simp [Numeral.ofNat]

/-! ### Lists -/

/-- Items are spelled when each of them is. -/
theorem itemsSpelledBy_writeItems {items : List Tree} (spelled : ∀ item ∈ items, item.IsSpelled) :
    itemsSpelledBy items (writeItems items) := by
  induction items with
  | nil =>
    rw [itemsSpelledBy]
    exact areBlank_nil
  | cons item items ih =>
    obtain ⟨first, others⟩ := List.forall_mem_cons.mp spelled
    cases items with
    | nil =>
      rw [itemsSpelledBy]
      exact .of_spelled first
    | cons next items =>
      rw [itemsSpelledBy, writeItems, List.append_assoc]
      exact ⟨item.write, _, rfl, .of_spelled first, ih others⟩

/-- Lists are spelled when their items are. -/
theorem isSpelled_array {items : List Tree} (spelled : ∀ item ∈ items, item.IsSpelled) :
    (Tree.array items).IsSpelled := by
  rw [Tree.IsSpelled, Tree.SpelledBy, Tree.write]
  exact ⟨_, rfl, itemsSpelledBy_writeItems spelled⟩

/-- Lists are spelled when every item that can be made is. -/
theorem isSpelled_map {α : Type} {toTree : α → Tree} (spelled : ∀ value, (toTree value).IsSpelled)
    (values : List α) : (Tree.array (values.map toTree)).IsSpelled :=
  isSpelled_array (List.forall_mem_map.mpr fun value _ => spelled value)

/-- Members are spelled when their values are. -/
theorem membersSpelledBy_writeMembers {fields : List (String × Tree)}
    (spelled : ∀ field ∈ fields, field.2.IsSpelled) :
    membersSpelledBy (fields.map fun (name, value) => (.ofString name, value))
      (writeMembers (fields.map fun (name, value) => (.ofString name, value))) := by
  induction fields with
  | nil =>
    rw [List.map_nil, membersSpelledBy]
    exact areBlank_nil
  | cons field fields ih =>
    obtain ⟨name, value⟩ := field
    obtain ⟨first, others⟩ := List.forall_mem_cons.mp spelled
    have member : Separated ':' (Padded (Tree.ofString name).SpelledBy) (Padded value.SpelledBy)
        ((Tree.ofString name).write ++ ':' :: value.write) :=
      ⟨_, _, rfl, .of_spelled (isSpelled_ofString name), .of_spelled first⟩
    cases fields with
    | nil =>
      rw [List.map_cons, List.map_nil, membersSpelledBy, writeMembers, List.append_assoc]
      exact ⟨⟨name, rfl⟩, member⟩
    | cons next fields =>
      have rest := ih others
      rw [List.map_cons] at rest
      rw [List.map_cons, List.map_cons, membersSpelledBy, writeMembers]
      refine ⟨⟨name, rfl⟩, _, _, ?_, member, rest⟩
      simp

/-- Records are spelled when their fields are. -/
theorem isSpelled_ofFields {fields : List (String × Tree)}
    (spelled : ∀ field ∈ fields, field.2.IsSpelled) : (Tree.ofFields fields).IsSpelled := by
  rw [Tree.IsSpelled, Tree.ofFields, Tree.SpelledBy, Tree.write]
  exact ⟨_, rfl, membersSpelledBy_writeMembers spelled⟩

/-! ### Texts -/

/-- The text of a tree is JSON with this value. -/
theorem Tree.IsSpelled.isValueOf {tree : Tree} (spelled : tree.IsSpelled) :
    tree.IsValueOf tree.text := by
  rw [Tree.IsValueOf, Tree.text, String.toList_ofList]
  exact .of_spelled spelled

end EnclaveChain.Json
