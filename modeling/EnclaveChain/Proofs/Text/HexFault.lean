import EnclaveChain.Proofs.Text.Hex
import Mathlib.Data.List.Induction

/-!
# What is wrong with a text that spells no bytes

Behind the mark, if the text has one, an odd number of bytes is a fault whatever the bytes are, and
else the first byte that is no digit is, at its position behind the mark. Positions count bytes, so
a character outside ASCII counts as often as it has bytes. Every text spells bytes or has a fault
(`spells_or_blamed`), and the reader reports it (`decodeText_eq_error_iff`).
-/
namespace EnclaveChain.Hex

/-- Whether bytes are those of a text behind the mark, if it begins with the mark, or else all of
its bytes. -/
inductive IsBehindMark : String → Bytes → Prop where
  /-- The text begins with the mark. -/
  | marked (digits : String) : IsBehindMark ("0x" ++ digits) (utf8 digits)
  /-- It does not. -/
  | bare {text : String} (unmarked : ∀ digits, text ≠ "0x" ++ digits) :
    IsBehindMark text (utf8 text)

/-- Whether a byte is a digit, alone. -/
def IsDigitByte (byte : UInt8) : Prop :=
  ∃ char value, IsDigit char value ∧ String.utf8EncodeChar char = [byte]

/-- Whether a fault is that of a text. -/
inductive Blames (text : String) : Fault → Prop where
  /-- The number of bytes is odd. -/
  | odd {digits : Bytes} (behind : IsBehindMark text digits) (odd : digits.length % 2 = 1) :
    Blames text .oddLength
  /-- The number is right and here is the first byte that is no digit. -/
  | bad {before after : Bytes} {byte : UInt8}
    (behind : IsBehindMark text (before ++ byte :: after))
    (even : (before ++ byte :: after).length % 2 = 0)
    (good : ∀ other ∈ before, IsDigitByte other) (bad : ¬ IsDigitByte byte) :
    Blames text (.badDigit byte before.length)

/-! ### Digits -/

/-- The reader knows the digits and nothing else. -/
theorem digitValue?_eq_none_iff {byte : UInt8} : digitValue? byte = none ↔ ¬ IsDigitByte byte := by
  constructor
  · rintro unknown ⟨char, value, isDigit, single⟩
    obtain ⟨ascii, known⟩ := digitValue?_of_isDigit isDigit
    have encoded := encodeUtf8_cons ascii []
    rw [encodeUtf8, List.flatMap_singleton, single] at encoded
    rw [← (List.cons.inj encoded).1, unknown] at known
    cases known
  · intro other
    cases known : digitValue? byte with
    | none => rfl
    | some value =>
      obtain ⟨small, isDigit⟩ := isDigit_of_digitValue? known
      have code : byte.toNat < 128 := UInt8.lt_iff_toNat_lt.mp small
      have valid : byte.toNat.isValidChar := .inl (by omega)
      have whole : (Char.ofNat byte.toNat).toNat = byte.toNat := by
        rw [Char.ofNat, dif_pos valid]
        rfl
      refine absurd ⟨_, _, isDigit, ?_⟩ other
      have ascii : (Char.ofNat byte.toNat).toNat < 128 := by omega
      have encoded := encodeUtf8_cons ascii []
      rw [encodeUtf8, List.flatMap_singleton, whole, UInt8.ofNat_toNat] at encoded
      exact encoded

/-- A digit is read. -/
theorem IsDigitByte.exists_digitAt {byte : UInt8} (good : IsDigitByte byte) (position : Nat) :
    ∃ value, digitAt byte position = .ok value := by
  rw [digitAt]
  cases known : digitValue? byte with
  | none => exact absurd good (digitValue?_eq_none_iff.mp known)
  | some value => exact ⟨value, rfl⟩

/-- Another byte is blamed. -/
theorem digitAt_of_bad {byte : UInt8} (bad : ¬ IsDigitByte byte) (position : Nat) :
    digitAt byte position = .error (.badDigit byte position) := by
  rw [digitAt, digitValue?_eq_none_iff.mpr bad]

/-- Bytes are all digits, or there is a first one that is not. -/
theorem good_or_bad (digits : Bytes) :
    (∀ byte ∈ digits, IsDigitByte byte) ∨
      ∃ before byte after, digits = before ++ byte :: after ∧
        (∀ other ∈ before, IsDigitByte other) ∧ ¬ IsDigitByte byte := by
  induction digits with
  | nil => exact .inl nofun
  | cons byte digits ih =>
    by_cases good : IsDigitByte byte
    · rcases ih with all | ⟨before, first, after, rfl, others, bad⟩
      · exact .inl (List.forall_mem_cons.mpr ⟨good, all⟩)
      · exact .inr ⟨byte :: before, first, after, rfl, List.forall_mem_cons.mpr ⟨good, others⟩, bad⟩
    · exact .inr ⟨[], byte, digits, rfl, nofun, good⟩

/-- Pairs of digits are read. -/
theorem exists_decodePairs {digits : Bytes} (good : ∀ byte ∈ digits, IsDigitByte byte)
    (position : Nat) : ∃ bytes, decodePairs position digits = .ok bytes := by
  induction digits using List.twoStepInduction generalizing position with
  | nil => exact ⟨[], rfl⟩
  | singleton byte => exact ⟨[], rfl⟩
  | cons_cons high low rest ih _ =>
    rw [List.forall_mem_cons, List.forall_mem_cons] at good
    obtain ⟨upper, readHigh⟩ := good.1.exists_digitAt position
    obtain ⟨lower, readLow⟩ := good.2.1.exists_digitAt (position + 1)
    obtain ⟨bytes, readRest⟩ := ih good.2.2 (position + 2)
    exact ⟨(16 * upper + lower) :: bytes, by simp only [decodePairs, readHigh, readLow, readRest]⟩

/-- In pairs of bytes the first one that is no digit is blamed, in either place of its pair. -/
theorem decodePairs_of_bad {before after : Bytes} {byte : UInt8}
    (even : (before ++ byte :: after).length % 2 = 0)
    (good : ∀ other ∈ before, IsDigitByte other) (bad : ¬ IsDigitByte byte) (position : Nat) :
    decodePairs position (before ++ byte :: after) =
      .error (.badDigit byte (position + before.length)) := by
  induction before using List.twoStepInduction generalizing position with
  | nil =>
    cases after with
    | nil => cases even
    | cons low rest =>
      simp only [List.nil_append, decodePairs, digitAt_of_bad bad]
      rfl
  | singleton high =>
    obtain ⟨upper, readHigh⟩ := (good high List.mem_cons_self).exists_digitAt position
    simp only [List.cons_append, List.nil_append, decodePairs, readHigh, digitAt_of_bad bad]
    rfl
  | cons_cons high low before ih _ =>
    rw [List.forall_mem_cons, List.forall_mem_cons] at good
    obtain ⟨upper, readHigh⟩ := good.1.exists_digitAt position
    obtain ⟨lower, readLow⟩ := good.2.1.exists_digitAt (position + 1)
    have remaining := ih ((Nat.add_mod_right _ 2).symm.trans even) good.2.2 (position + 2)
    have places : position + 2 + before.length = position + (high :: low :: before).length := by
      simp only [List.length_cons]
      omega
    simp only [List.cons_append, decodePairs, readHigh, readLow, remaining, places]

/-! ### Texts -/

/-- What stands behind the mark is what the reader goes on with. -/
theorem IsBehindMark.stripMark_eq {text : String} {digits : Bytes}
    (behind : IsBehindMark text digits) : stripMark (utf8 text) = digits := by
  cases behind with
  | marked digits =>
    rw [utf8, String.toList_append, List.flatMap_append]
    rfl
  | bare unmarked =>
    obtain ⟨mark, listed, chars, split, stripped⟩ := exists_mark text.toList
    simp only [List.mem_cons, List.not_mem_nil, or_false] at listed
    rcases listed with rfl | rfl
    · rw [utf8, ← encodeUtf8, stripped, split]
      rfl
    · refine absurd ?_ (unmarked (String.ofList chars))
      apply String.toList_inj.mp
      simp [split]

/-- Every text has bytes behind its mark. -/
theorem exists_isBehindMark (text : String) : ∃ digits, IsBehindMark text digits := by
  by_cases marked : ∃ digits, text = "0x" ++ digits
  · obtain ⟨digits, rfl⟩ := marked
    exact ⟨_, .marked digits⟩
  · exact ⟨_, .bare (not_exists.mp marked)⟩

/-- The reader reports the fault of a text. -/
theorem Blames.decodeText_eq {text : String} {fault : Fault} (blames : Blames text fault) :
    decodeText text = .error fault := by
  cases blames with
  | odd behind odd => rw [decodeText, behind.stripMark_eq, decode, if_pos odd]
  | bad behind even good bad =>
    have read := decodePairs_of_bad even good bad 0
    rw [Nat.zero_add] at read
    rw [decodeText, behind.stripMark_eq, decode, if_neg (by omega), read]

/-- A text spells bytes or has a fault. -/
theorem spells_or_blamed (text : String) :
    (∃ bytes, SpelledBy bytes text) ∨ ∃ fault, Blames text fault := by
  obtain ⟨digits, behind⟩ := exists_isBehindMark text
  by_cases odd : digits.length % 2 = 1
  · exact .inr ⟨_, .odd behind odd⟩
  · rcases good_or_bad digits with good | ⟨before, byte, after, rfl, good, bad⟩
    · obtain ⟨bytes, read⟩ := exists_decodePairs good 0
      refine .inl ⟨bytes, (decodeText_eq_ok_iff text bytes).mp ?_⟩
      rw [decodeText, behind.stripMark_eq, decode, if_neg odd, read]
    · exact .inr ⟨_, .bad behind (Nat.mod_two_ne_one.mp odd) good bad⟩

/-- The reader reports a fault exactly when it is that of the text. -/
theorem decodeText_eq_error_iff (text : String) (fault : Fault) :
    decodeText text = .error fault ↔ Blames text fault := by
  refine ⟨fun failed => ?_, Blames.decodeText_eq⟩
  rcases spells_or_blamed text with ⟨bytes, spelled⟩ | ⟨other, blames⟩
  · rw [(decodeText_eq_ok_iff text bytes).mpr spelled] at failed
    cases failed
  · rw [blames.decodeText_eq] at failed
    cases failed
    exact blames

end EnclaveChain.Hex
