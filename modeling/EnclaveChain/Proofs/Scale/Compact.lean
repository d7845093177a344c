import EnclaveChain.Proofs.Scale.Reading

/-!
# Compact integers have one form

A compact integer is read from its shortest form and from no other bytes (`decode_reads`). Both
kinds of long form are treated alike: a form of a given size is read exactly when the number fits
it and no shorter form would do, and the sizes of the forms divide the numbers among them.
-/
namespace EnclaveChain

/-- The digits of a number are the byte string of their number that denotes it. -/
theorem Bytes.littleEndian_eq_iff {width value : Nat} {bytes : Bytes} (fits : value < 256 ^ width) :
    littleEndian width value = bytes ↔ bytes.length = width ∧ ofLittleEndian bytes = value := by
  constructor
  · rintro rfl
    exact ⟨length_littleEndian width value, ofLittleEndian_littleEndian fits⟩
  · rintro ⟨rfl, rfl⟩
    exact littleEndian_ofLittleEndian bytes

namespace Scale.Compact

open Bytes

/-! ### The four forms -/

/-- A number below 64 is alone in its byte. -/
theorem encode_of_lt_six {value : Nat} (small : value < 2 ^ 6) :
    encode value = littleEndian 1 (4 * value) := by
  rw [encode, if_pos small]

/-- The next larger numbers take two bytes. -/
theorem encode_of_lt_fourteen {value : Nat} (large : 2 ^ 6 ≤ value) (small : value < 2 ^ 14) :
    encode value = littleEndian 2 (4 * value + 1) := by
  rw [encode, if_neg (by omega), if_pos small]

/-- The next larger numbers take four bytes. -/
theorem encode_of_lt_thirty {value : Nat} (large : 2 ^ 14 ≤ value) (small : value < 2 ^ 30) :
    encode value = littleEndian 4 (4 * value + 2) := by
  rw [encode, if_neg (by omega), if_neg (by omega), if_pos small]

/-- All other numbers have bytes of their own. -/
theorem encode_of_thirty_le {value : Nat} (large : 2 ^ 30 ≤ value) :
    encode value =
      UInt8.ofNat (4 * (byteWidth value - 4) + 3) :: littleEndian (byteWidth value) value := by
  rw [encode, if_neg (by omega), if_neg (by omega), if_neg (by omega)]

/-- The bytes that a number takes hold it, and one byte less does not. -/
theorem byteWidth_eq_iff {value count : Nat} (positive : value ≠ 0) :
    byteWidth value = count + 1 ↔ 256 ^ count ≤ value ∧ value < 256 ^ (count + 1) := by
  have least := Nat.le_log2 positive (k := 8 * count)
  have limit := Nat.log2_lt positive (k := 8 * (count + 1))
  rw [Nat.pow_mul] at least limit
  rw [← least, ← limit, byteWidth]
  omega

/-- A number that fits a width takes no more bytes. -/
theorem byteWidth_le {value width : Nat} (positive : value ≠ 0) (fits : value < 256 ^ width) :
    byteWidth value ≤ width := by
  have known := (byteWidth_eq_iff positive).mp (show byteWidth value = value.log2 / 8 + 1 from rfl)
  have bounded : 256 ^ (value.log2 / 8) < 256 ^ width := Nat.lt_of_le_of_lt known.1 fits
  exact (Nat.pow_lt_pow_iff_right (by decide)).mp bounded

/-- A number of its own bytes takes at least four of them. -/
theorem four_le_byteWidth {value : Nat} (large : 2 ^ 30 ≤ value) : 4 ≤ byteWidth value := by
  have least := (Nat.le_log2 (by omega : value ≠ 0) (k := 30)).mpr large
  rw [byteWidth]
  omega

/-! ### Reading one form -/

/-- A number that shares its first byte with the mode bits is read from the form of its size. -/
theorem shared_eq_ok_iff {width more least mode value : Nat} {first : UInt8} {bytes rest : Bytes}
    (marked : first.toNat % 4 = mode) :
    shared width more least first bytes = .ok (value, rest) ↔
      least ≤ value ∧ value < 64 * 256 ^ more ∧
        first :: bytes = littleEndian (more + 1) (4 * value + mode) ++ rest := by
  have power : 256 ^ (more + 1) = 4 * (64 * 256 ^ more) := by
    rw [Nat.pow_succ]
    omega
  simp only [shared, Decoder.andThen_eq_ok_iff, Decoder.take_eq_ok_iff, atLeast]
  constructor
  · rintro ⟨digits, middle, ⟨counted, rfl⟩, decoded⟩
    split at decoded
    · rename_i enough
      cases decoded
      have bound := ofLittleEndian_lt (first :: digits)
      rw [List.length_cons, counted] at bound
      have whole : 4 * (ofLittleEndian (first :: digits) / 4) + mode =
          ofLittleEndian (first :: digits) := by
        simp only [ofLittleEndian]
        omega
      refine ⟨enough, by omega, ?_⟩
      rw [whole, ← counted, ← List.length_cons (a := first), littleEndian_ofLittleEndian,
        List.cons_append]
    · cases decoded
  · rintro ⟨enough, small, form⟩
    have fits : 4 * value + mode < 256 ^ (more + 1) := by omega
    rw [littleEndian, List.cons_append, List.cons.injEq] at form
    obtain ⟨low, rfl⟩ := form
    refine ⟨littleEndian more ((4 * value + mode) / 256), rest,
      ⟨length_littleEndian _ _, rfl⟩, ?_⟩
    have whole : ofLittleEndian (first :: littleEndian more ((4 * value + mode) / 256)) =
        4 * value + mode := by
      rw [low, ← littleEndian, ofLittleEndian_littleEndian fits]
    have quotient : (4 * value + mode) / 4 = value := by omega
    rw [whole, quotient, if_pos enough]

/-- A number of its own bytes is read from as many as it takes. -/
theorem separate_eq_ok_iff {width count value : Nat} {bytes rest : Bytes} :
    separate width count bytes = .ok (value, rest) ↔
      count ≤ width ∧ max (2 ^ 30) (256 ^ (count - 1)) ≤ value ∧ value < 256 ^ count ∧
        bytes = littleEndian count value ++ rest := by
  unfold separate
  split
  · rename_i wide
    simp only [Decoder.fail, reduceCtorEq, false_iff, not_and]
    omega
  · rename_i narrow
    simp only [Decoder.andThen_eq_ok_iff, Decoder.take_eq_ok_iff, atLeast]
    constructor
    · rintro ⟨digits, middle, ⟨counted, rfl⟩, decoded⟩
      split at decoded
      · rename_i enough
        cases decoded
        have bound := ofLittleEndian_lt digits
        rw [counted] at bound
        refine ⟨by omega, enough, bound, ?_⟩
        rw [← counted, littleEndian_ofLittleEndian]
      · cases decoded
    · rintro ⟨-, enough, small, rfl⟩
      refine ⟨littleEndian count value, rest, ⟨length_littleEndian _ _, rfl⟩, ?_⟩
      rw [ofLittleEndian_littleEndian small, if_pos enough]

/-! ### All forms together -/

/-- What is read stands in the input in its shortest form. -/
theorem encode_of_decode {width value : Nat} {bytes rest : Bytes} (wide : 4 ≤ width)
    (decoded : decode width bytes = .ok (value, rest)) :
    value < 256 ^ width ∧ bytes = encode value ++ rest := by
  have room : 256 ^ 4 ≤ 256 ^ width := Nat.pow_le_pow_right (by decide) wide
  cases bytes with
  | nil => simp [decode] at decoded
  | cons first tail =>
    have byte := first.toNat_lt
    rw [decode] at decoded
    -- The two low bits of the first byte select the form.
    split at decoded
    · rename_i mode
      cases decoded
      have low : first.toNat / 4 < 2 ^ 6 := by omega
      refine ⟨by omega, ?_⟩
      have alone : littleEndian 1 (4 * (first.toNat / 4)) = [first] :=
        (littleEndian_eq_iff (by omega)).mpr ⟨rfl, by simp only [ofLittleEndian]; omega⟩
      rw [encode_of_lt_six low, alone, List.singleton_append]
    · rename_i mode
      obtain ⟨large, small, form⟩ := (shared_eq_ok_iff mode).mp decoded
      exact ⟨by omega, by rw [encode_of_lt_fourteen large (by omega), form]⟩
    · rename_i mode
      obtain ⟨large, small, form⟩ := (shared_eq_ok_iff mode).mp decoded
      exact ⟨by omega, by rw [encode_of_lt_thirty large (by omega), form]⟩
    · rename_i one two three
      have mode : first.toNat % 4 ≠ 0 ∧ first.toNat % 4 ≠ 1 ∧ first.toNat % 4 ≠ 2 :=
        ⟨one, two, three⟩
      obtain ⟨narrow, large, small, rfl⟩ := separate_eq_ok_iff.mp decoded
      rw [show first.toNat / 4 + 4 - 1 = first.toNat / 4 + 3 from rfl] at large
      have width_eq : byteWidth value = first.toNat / 4 + 4 :=
        (byteWidth_eq_iff (by omega)).mpr ⟨by omega, small⟩
      refine ⟨Nat.lt_of_lt_of_le small (Nat.pow_le_pow_right (by decide) narrow), ?_⟩
      rw [encode_of_thirty_le (by omega), width_eq, List.cons_append, List.cons.injEq]
      refine ⟨UInt8.toNat_inj.mp ?_, rfl⟩
      rw [UInt8.toNat_ofNat']
      omega

/-- A number that fits the width is read from its shortest form. -/
theorem decode_encode {width value : Nat} (narrow : width ≤ 67) (fits : value < 256 ^ width)
    (rest : Bytes) : decode width (encode value ++ rest) = .ok (value, rest) := by
  by_cases alone : value < 2 ^ 6
  · have mode : (UInt8.ofNat (4 * value)).toNat = 4 * value := by
      rw [UInt8.toNat_ofNat']
      omega
    rw [encode_of_lt_six alone, littleEndian, littleEndian, List.singleton_append, decode, mode]
    simp
  by_cases two : value < 2 ^ 14
  · have mode : (UInt8.ofNat (4 * value + 1)).toNat % 4 = 1 := by
      rw [UInt8.toNat_ofNat']
      omega
    rw [encode_of_lt_fourteen (by omega) two, littleEndian, List.cons_append, decode, mode]
    apply (shared_eq_ok_iff mode).mpr
    exact ⟨by omega, by omega, rfl⟩
  by_cases four : value < 2 ^ 30
  · have mode : (UInt8.ofNat (4 * value + 2)).toNat % 4 = 2 := by
      rw [UInt8.toNat_ofNat']
      omega
    rw [encode_of_lt_thirty (by omega) four, littleEndian, List.cons_append, decode, mode]
    apply (shared_eq_ok_iff mode).mpr
    exact ⟨by omega, by omega, rfl⟩
  · have least := four_le_byteWidth (Nat.le_of_not_lt four)
    have most := byteWidth_le (by omega) fits
    have size : byteWidth value = (byteWidth value - 1) + 1 := by omega
    have own := (byteWidth_eq_iff (by omega)).mp size
    rw [← size] at own
    have mark : (UInt8.ofNat (4 * (byteWidth value - 4) + 3)).toNat =
        4 * (byteWidth value - 4) + 3 := by
      rw [UInt8.toNat_ofNat']
      omega
    have mode : (4 * (byteWidth value - 4) + 3) % 4 = 3 := by omega
    have count : (4 * (byteWidth value - 4) + 3) / 4 + 4 = byteWidth value := by omega
    rw [encode_of_thirty_le (by omega), List.cons_append, decode, mark, mode]
    simp only [count]
    exact separate_eq_ok_iff.mpr ⟨most, by omega, own.2, rfl⟩

/-- Exactly the numbers that fit a width are read, each from its shortest form only. -/
theorem decode_reads {width : Nat} (supported : 4 ≤ width ∧ width ≤ 67) :
    (decode width).Reads (· < 256 ^ width) encode := by
  intro bytes value rest
  constructor
  · exact encode_of_decode supported.1
  · rintro ⟨fits, rfl⟩
    exact decode_encode supported.2 fits rest

end Scale.Compact

end EnclaveChain
