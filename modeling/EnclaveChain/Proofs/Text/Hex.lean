import EnclaveChain.Text.Hex

/-!
# Which texts spell bytes in hexadecimal digits

The reader of digits works on the UTF-8 bytes of a text and has its own idea of a digit. Here a text
spells bytes when its characters are pairs of digits, one pair for each byte, and the reader is
shown to accept exactly these texts, with or without one `0x` before the digits. No byte of a
character outside ASCII looks like a digit or a mark (`uncons_encodeUtf8`), so reading bytes is
reading characters.
-/
namespace EnclaveChain.Hex

/-! ### The texts -/

/-- Whether a character is the digit of a value, in either case. -/
def IsDigit (char : Char) (value : Nat) : Prop :=
  "0123456789abcdef".toList[value]? = some char ∨ "0123456789ABCDEF".toList[value]? = some char

instance (char : Char) (value : Nat) : Decidable (IsDigit char value) :=
  inferInstanceAs (Decidable (_ ∨ _))

/-- Whether characters are two digits for each byte. -/
inductive SpellsBytes : List Char → Bytes → Prop where
  /-- No digits spell no bytes. -/
  | nil : SpellsBytes [] []
  /-- The first digit is the upper half of a byte. -/
  | cons {high low : Char} {upper lower : Nat} {chars : List Char} {bytes : Bytes}
      (first : IsDigit high upper) (second : IsDigit low lower) (others : SpellsBytes chars bytes) :
      SpellsBytes (high :: low :: chars) (UInt8.ofNat (16 * upper + lower) :: bytes)

/-- Whether a text is an optional mark and two digits for each byte. -/
def SpelledBy (bytes : Bytes) (text : String) : Prop :=
  ∃ mark ∈ ["", "0x"], ∃ digits, text.toList = mark.toList ++ digits ∧ SpellsBytes digits bytes

/-! ### Digits -/

/-- A digit is below 16. -/
theorem IsDigit.lt {char : Char} {value : Nat} (isDigit : IsDigit char value) : value < 16 := by
  rcases isDigit with listed | listed <;> exact (List.getElem?_eq_some_iff.mp listed).1

/-- What is checked for the digits of each value holds of every digit. -/
theorem IsDigit.of_checked {check : Nat → Char → Bool}
    (checked : ∀ value < 16, "0123456789abcdef".toList[value]?.all (check value) ∧
      "0123456789ABCDEF".toList[value]?.all (check value))
    {char : Char} {value : Nat} (isDigit : IsDigit char value) : check value char = true := by
  obtain ⟨lower, upper⟩ := checked value isDigit.lt
  rcases isDigit with listed | listed
  · rwa [listed] at lower
  · rwa [listed] at upper

/-- The reader of digits knows the digits. -/
theorem digitValue?_of_isDigit {char : Char} {value : Nat} (isDigit : IsDigit char value) :
    char.toNat < 128 ∧ digitValue? (UInt8.ofNat char.toNat) = some (UInt8.ofNat value) := by
  let check (value : Nat) (char : Char) : Bool :=
    char.toNat < 128 ∧ digitValue? (UInt8.ofNat char.toNat) = some (UInt8.ofNat value)
  have known : check value char = true := isDigit.of_checked (by decide)
  exact of_decide_eq_true known

/-- The reader of digits knows nothing else. -/
theorem isDigit_of_digitValue? {byte value : UInt8} (known : digitValue? byte = some value) :
    byte < 128 ∧ IsDigit (Char.ofNat byte.toNat) value.toNat := by
  have listed : ∀ byte < 256, ∀ value ∈ digitValue? (UInt8.ofNat byte),
      byte < 128 ∧ IsDigit (Char.ofNat byte) value.toNat := by decide +kernel
  have := listed byte.toNat byte.toNat_lt value (by simpa using known)
  exact ⟨UInt8.lt_iff_toNat_lt.mpr this.1, this.2⟩

/-! ### UTF-8 -/

/-- The bytes of characters. -/
def encodeUtf8 (chars : List Char) : Bytes := chars.flatMap String.utf8EncodeChar

/-- A character of ASCII is one byte. -/
theorem encodeUtf8_cons {char : Char} (ascii : char.toNat < 128) (chars : List Char) :
    encodeUtf8 (char :: chars) = UInt8.ofNat char.toNat :: encodeUtf8 chars := by
  have single : char.val.toNat ≤ 127 := Nat.le_of_lt_succ ascii
  rw [encodeUtf8, List.flatMap_cons, String.utf8EncodeChar, if_pos single]
  rfl

/-- The bytes of every other character begin beyond ASCII. -/
theorem utf8EncodeChar_eq_cons {char : Char} (beyond : 128 ≤ char.toNat) :
    ∃ byte bytes, String.utf8EncodeChar char = byte :: bytes ∧ 128 ≤ byte := by
  have notSingle : ¬ char.val.toNat ≤ 127 := Nat.not_le_of_lt beyond
  simp only [String.utf8EncodeChar, if_neg notSingle]
  have large : ∀ rest < 128, (128 : UInt8) ≤ UInt8.ofNat (rest + 128) := by decide
  split
  · exact ⟨_, _, rfl, large (_ / 64 % 32 + 64) (by omega)⟩
  · split
    · exact ⟨_, _, rfl, large (_ / 4096 % 16 + 96) (by omega)⟩
    · exact ⟨_, _, rfl, large (_ / 262144 % 8 + 112) (by omega)⟩

/-- A byte of ASCII at the front is a character. -/
theorem uncons_encodeUtf8 {chars : List Char} {byte : UInt8} {bytes : Bytes}
    (split : encodeUtf8 chars = byte :: bytes) (ascii : byte < 128) :
    ∃ others, chars = Char.ofNat byte.toNat :: others ∧ encodeUtf8 others = bytes := by
  cases chars with
  | nil => cases split
  | cons char others =>
    rcases Nat.lt_or_ge char.toNat 128 with inside | beyond
    · rw [encodeUtf8_cons inside] at split
      obtain ⟨rfl, rfl⟩ := List.cons.inj split
      refine ⟨others, ?_, rfl⟩
      rw [UInt8.toNat_ofNat_of_lt' (Nat.lt_trans inside (by decide)), Char.ofNat_toNat]
    · obtain ⟨first, rest, encoded, large⟩ := utf8EncodeChar_eq_cons beyond
      rw [encodeUtf8, List.flatMap_cons, encoded] at split
      obtain ⟨rfl, -⟩ := List.cons.inj split
      exact absurd ascii (UInt8.not_lt.mpr large)

/-- Characters without bytes are no characters. -/
theorem encodeUtf8_eq_nil {chars : List Char} (empty : encodeUtf8 chars = []) : chars = [] := by
  cases chars with
  | nil => rfl
  | cons char others =>
    have encoded := (List.append_eq_nil_iff.mp empty).1
    exact absurd encoded String.utf8EncodeChar_ne_nil

/-! ### Reading -/

/-- The reader accepts a byte as a digit only when it knows it. -/
theorem digitValue?_of_digitAt {byte value : UInt8} {position : Nat}
    (read : digitAt byte position = .ok value) : digitValue? byte = some value := by
  unfold digitAt at read
  split at read
  · next known => rw [known, Except.ok.inj read]
  · cases read

/-- Digits that the reader accepts come in pairs. -/
theorem spellsBytes_of_decodePairs {digits : Bytes} (position : Nat) {chars : List Char}
    {bytes : Bytes} (utf8 : encodeUtf8 chars = digits) (even : digits.length % 2 = 0)
    (decoded : decodePairs position digits = .ok bytes) : SpellsBytes chars bytes := by
  fun_induction decodePairs position digits generalizing chars bytes with
  | case1 | case2 | case3 => cases decoded
  | case4 position high low rest upper readHigh lower readLow others readRest spells =>
    obtain ⟨asciiHigh, isUpper⟩ := isDigit_of_digitValue? (digitValue?_of_digitAt readHigh)
    obtain ⟨asciiLow, isLower⟩ := isDigit_of_digitValue? (digitValue?_of_digitAt readLow)
    obtain ⟨tail, rfl, afterHigh⟩ := uncons_encodeUtf8 utf8 asciiHigh
    obtain ⟨chars, rfl, afterLow⟩ := uncons_encodeUtf8 afterHigh asciiLow
    have byte : 16 * upper + lower = UInt8.ofNat (16 * upper.toNat + lower.toNat) := by
      rw [UInt8.ofNat_add, UInt8.ofNat_mul, UInt8.ofNat_toNat, UInt8.ofNat_toNat]
      rfl
    rw [← Except.ok.inj decoded, byte]
    exact .cons isUpper isLower (spells afterLow ((Nat.add_mod_right _ 2).symm.trans even) readRest)
  | case5 digits _ short =>
    cases decoded
    match digits, utf8, even, short with
    | [], utf8, _, _ => rw [encodeUtf8_eq_nil utf8]; exact .nil
    | [_], _, even, _ => cases even
    | high :: low :: rest, _, _, short => exact (short high low rest rfl).elim

/-- Pairs of digits are read. -/
theorem SpellsBytes.decodePairs {chars : List Char} {bytes : Bytes}
    (spelled : SpellsBytes chars bytes) (position : Nat) :
    (encodeUtf8 chars).length % 2 = 0 ∧
      decodePairs position (encodeUtf8 chars) = .ok bytes := by
  induction spelled generalizing position with
  | nil => exact ⟨rfl, rfl⟩
  | @cons high low upper lower chars bytes first second _ others =>
    obtain ⟨asciiHigh, knownHigh⟩ := digitValue?_of_isDigit first
    obtain ⟨asciiLow, knownLow⟩ := digitValue?_of_isDigit second
    obtain ⟨even, decoded⟩ := others (position + 2)
    rw [encodeUtf8_cons asciiHigh, encodeUtf8_cons asciiLow]
    refine ⟨(Nat.add_mod_right _ 2).trans even, ?_⟩
    rw [Hex.decodePairs, digitAt, knownHigh, digitAt, knownLow, decoded, UInt8.ofNat_add,
      UInt8.ofNat_mul]
    rfl

/-- Only a mark is left out. -/
theorem stripMark_of_getElem? {bytes : Bytes} (noMark : bytes[1]? ≠ some 120) :
    stripMark bytes = bytes := by
  unfold stripMark
  split
  · exact absurd rfl noMark
  · rfl

/-- Digits do not begin with the mark. -/
theorem SpellsBytes.stripMark {chars : List Char} {bytes : Bytes}
    (spelled : SpellsBytes chars bytes) :
    Hex.stripMark (encodeUtf8 chars) = encodeUtf8 chars := by
  apply stripMark_of_getElem?
  cases spelled with
  | nil => exact nofun
  | cons first second others =>
    obtain ⟨asciiHigh, -⟩ := digitValue?_of_isDigit first
    obtain ⟨asciiLow, known⟩ := digitValue?_of_isDigit second
    rw [encodeUtf8_cons asciiHigh, encodeUtf8_cons asciiLow]
    intro mark
    rw [Option.some.inj mark] at known
    cases known

/-- Without its mark a text is its digits. -/
theorem exists_mark (chars : List Char) :
    ∃ mark ∈ ["", "0x"], ∃ digits, chars = mark.toList ++ digits ∧
      stripMark (encodeUtf8 chars) = encodeUtf8 digits := by
  by_cases marked : ∃ digits, chars = '0' :: 'x' :: digits
  · obtain ⟨digits, rfl⟩ := marked
    exact ⟨"0x", by simp, digits, rfl, rfl⟩
  · refine ⟨"", by simp, chars, rfl, ?_⟩
    unfold stripMark
    split
    · next zero =>
      obtain ⟨tail, rfl, letter⟩ := uncons_encodeUtf8 zero (by decide)
      obtain ⟨digits, rfl, -⟩ := uncons_encodeUtf8 letter (by decide)
      exact (marked ⟨digits, rfl⟩).elim
    · rfl

/-- The reader accepts exactly the texts that spell bytes. -/
theorem decodeText_eq_ok_iff (text : String) (bytes : Bytes) :
    decodeText text = .ok bytes ↔ SpelledBy bytes text := by
  constructor
  · intro decoded
    obtain ⟨mark, listed, digits, split, stripped⟩ := exists_mark text.toList
    refine ⟨mark, listed, digits, split, ?_⟩
    rw [decodeText, utf8, ← encodeUtf8, stripped, decode] at decoded
    split at decoded
    · cases decoded
    · next even => exact spellsBytes_of_decodePairs 0 rfl (Nat.mod_two_ne_one.mp even) decoded
  · rintro ⟨mark, listed, digits, split, spelled⟩
    obtain ⟨even, decoded⟩ := spelled.decodePairs 0
    have stripped : stripMark (utf8 text) = encodeUtf8 digits := by
      rw [utf8, split]
      simp only [List.mem_cons, List.not_mem_nil, or_false] at listed
      rcases listed with rfl | rfl
      · exact spelled.stripMark
      · rfl
    rw [decodeText, stripped, decode, if_neg (by omega), decoded]

/-! ### Writing -/

/-- Digits are written in lower case. -/
theorem isDigit_digit : ∀ value < 16, IsDigit (digit value) value := by decide

/-- Written digits spell what was written. -/
theorem spellsBytes_encodeChars (bytes : Bytes) : SpellsBytes (encodeChars bytes) bytes := by
  induction bytes with
  | nil => exact .nil
  | cons byte bytes others =>
    have halves : byte = UInt8.ofNat (16 * (byte.toNat / 16) + byte.toNat % 16) := by
      rw [Nat.div_add_mod, UInt8.ofNat_toNat]
    have upper := isDigit_digit (byte.toNat / 16) (Nat.div_lt_of_lt_mul byte.toNat_lt)
    have lower := isDigit_digit (byte.toNat % 16) (Nat.mod_lt _ (by decide))
    rw [encodeChars, List.flatMap_cons]
    conv => rhs; rw [halves]
    exact .cons upper lower others

/-- What is written with the mark is what it spells. -/
theorem spelledBy_encode0x (bytes : Bytes) : SpelledBy bytes (encode0x bytes) :=
  ⟨"0x", by simp, encodeChars bytes, by simp [encode0x, encode], spellsBytes_encodeChars bytes⟩

/-- Different bytes are written differently. -/
theorem encode0x_inj {left right : Bytes} : encode0x left = encode0x right ↔ left = right := by
  refine ⟨fun same => ?_, congrArg encode0x⟩
  have read := (decodeText_eq_ok_iff _ left).mpr (spelledBy_encode0x left)
  rw [same, (decodeText_eq_ok_iff _ right).mpr (spelledBy_encode0x right)] at read
  exact (Except.ok.inj read).symm

end EnclaveChain.Hex
