import EnclaveChain.Number.Power

/-!
# Byte strings

A byte string is a list, so that a decoder can be stated and proved by recursion on it. Two
primitives carry the whole format: cutting a number of bytes off the front, and writing a
natural number with its low byte first. Cutting loses nothing (`splitFront?_eq_some_iff`), and
the low-byte-first digits of a number of given width determine it (`ofLittleEndian_littleEndian`)
and are determined by it (`littleEndian_ofLittleEndian`).
-/
namespace EnclaveChain

/-- A byte string in reading order. -/
abbrev Bytes := List UInt8

/-- A byte string whose length is fixed by its type. -/
structure FixedBytes (size : Nat) where
  /-- The bytes in reading order. -/
  toList : Bytes
  /-- Their number is the declared one. -/
  length_eq : toList.length = size
deriving DecidableEq

namespace FixedBytes

/-- Two byte strings of one size are equal when their bytes are. -/
@[ext]
theorem ext {size : Nat} {left right : FixedBytes size} (same : left.toList = right.toList) :
    left = right := by
  cases left
  cases right
  cases same
  rfl

/-- A byte string of the declared length, or nothing. -/
def ofList? (size : Nat) (bytes : Bytes) : Option (FixedBytes size) :=
  if sized : bytes.length = size then some ⟨bytes, sized⟩ else none

end FixedBytes

namespace Bytes

/-- The first `count` bytes and the bytes after them, or nothing when there are fewer. -/
def splitFront? : Nat → Bytes → Option (Bytes × Bytes)
  | 0, bytes => some ([], bytes)
  | _ + 1, [] => none
  | count + 1, byte :: bytes =>
    match splitFront? count bytes with
    | none => none
    | some (front, rest) => some (byte :: front, rest)

/-- Bytes put in front are the bytes cut off. -/
theorem splitFront?_append (front rest : Bytes) :
    splitFront? front.length (front ++ rest) = some (front, rest) := by
  induction front with
  | nil => rfl
  | cons byte front ih => simp [splitFront?, ih]

/-- Cutting loses nothing and cuts as much as it was asked to. -/
theorem append_of_splitFront? {count : Nat} {bytes front rest : Bytes}
    (cut : splitFront? count bytes = some (front, rest)) :
    bytes = front ++ rest ∧ front.length = count := by
  induction count generalizing bytes front with
  | zero =>
    cases cut
    exact ⟨rfl, rfl⟩
  | succ count ih =>
    cases bytes with
    | nil => simp [splitFront?] at cut
    | cons byte bytes =>
      cases found : splitFront? count bytes with
      | none => simp [splitFront?, found] at cut
      | some halves =>
        obtain ⟨head, tail⟩ := halves
        simp only [splitFront?, found, Option.some.injEq, Prod.mk.injEq] at cut
        obtain ⟨rfl, rfl⟩ := cut
        obtain ⟨rfl, sized⟩ := ih found
        exact ⟨rfl, by simp [sized]⟩

/-- Cutting succeeds exactly on a byte string that starts with that many bytes. -/
theorem splitFront?_eq_some_iff {count : Nat} {bytes front rest : Bytes} :
    splitFront? count bytes = some (front, rest) ↔
      bytes = front ++ rest ∧ front.length = count := by
  constructor
  · exact append_of_splitFront?
  · rintro ⟨rfl, rfl⟩
    exact splitFront?_append front rest

/-- Cutting fails exactly when there are fewer bytes. -/
theorem splitFront?_eq_none_iff {count : Nat} {bytes : Bytes} :
    splitFront? count bytes = none ↔ bytes.length < count := by
  cases cut : splitFront? count bytes with
  | some found =>
    obtain ⟨front, rest⟩ := found
    obtain ⟨rfl, sized⟩ := splitFront?_eq_some_iff.mp cut
    simp only [reduceCtorEq, List.length_append, false_iff]
    omega
  | none =>
    simp only [true_iff]
    apply Nat.lt_of_not_le
    intro enough
    have found : splitFront? count bytes = some (bytes.take count, bytes.drop count) :=
      splitFront?_eq_some_iff.mpr ⟨(List.take_append_drop count bytes).symm, by
        simp [List.length_take, Nat.min_eq_left enough]⟩
    simp [cut] at found

/-- The `width` low-byte-first digits of a number; higher digits are dropped. -/
def littleEndian : Nat → Nat → Bytes
  | 0, _ => []
  | width + 1, value => UInt8.ofNat value :: littleEndian width (value / 256)

/-- The number whose low-byte-first digits these are. -/
def ofLittleEndian : Bytes → Nat
  | [] => 0
  | byte :: bytes => byte.toNat + 256 * ofLittleEndian bytes

/-- A number has as many digits as its width. -/
@[simp]
theorem length_littleEndian (width value : Nat) : (littleEndian width value).length = width := by
  induction width generalizing value with
  | zero => rfl
  | succ width ih => simp [littleEndian, ih]

/-- A byte string denotes a number below the power of its length. -/
theorem ofLittleEndian_lt (bytes : Bytes) : ofLittleEndian bytes < 256 ^ bytes.length := by
  induction bytes with
  | nil => simp [ofLittleEndian]
  | cons byte bytes ih =>
    have low := byte.toNat_lt
    simp only [ofLittleEndian, List.length_cons, Nat.pow_succ]
    omega

/-- Digits of a number that fits their width give the number back. -/
theorem ofLittleEndian_littleEndian {width value : Nat} (fits : value < 256 ^ width) :
    ofLittleEndian (littleEndian width value) = value := by
  induction width generalizing value with
  | zero =>
    have none : value = 0 := by simpa using fits
    simp [littleEndian, ofLittleEndian, none]
  | succ width ih =>
    have higher : value / 256 < 256 ^ width := by
      rw [Nat.pow_succ] at fits
      omega
    simp only [littleEndian, ofLittleEndian, ih higher, UInt8.toNat_ofNat']
    omega

/-- The digits of the number a byte string denotes are the byte string. -/
theorem littleEndian_ofLittleEndian (bytes : Bytes) :
    littleEndian bytes.length (ofLittleEndian bytes) = bytes := by
  induction bytes with
  | nil => rfl
  | cons byte bytes ih =>
    have low := byte.toNat_lt
    have quotient : (byte.toNat + 256 * ofLittleEndian bytes) / 256 = ofLittleEndian bytes := by
      omega
    simp only [List.length_cons, ofLittleEndian, littleEndian, quotient, ih, List.cons.injEq,
      and_true]
    apply UInt8.toNat_inj.mp
    rw [UInt8.toNat_ofNat']
    omega

end Bytes

end EnclaveChain
