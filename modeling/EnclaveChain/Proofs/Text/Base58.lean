import EnclaveChain.Chain.Ss58
import Mathlib.Data.Nat.Digits.Lemmas

/-!
# Base 58 loses nothing

A number is told by its digits, and a byte string by its number and by how many zero bytes stand in
front. The text shows both: the first digit of a number is not zero, so the digits zero in front are
those of the zero bytes. Texts are therefore equal only for equal byte strings (`encode_injective`),
and addresses only for equal accounts (`Ss58.address_injective`).
-/
namespace EnclaveChain

namespace Base58

/-! ### Digits -/

/-- The digits are those of positional notation, the highest first. -/
theorem digits_eq_reverse (number : Nat) : digits number = (Nat.digits 58 number).reverse := by
  induction number using Nat.strong_induction_on with
  | _ number ih =>
    rw [digits]
    split_ifs with zero
    · rw [zero, Nat.digits_zero, List.reverse_nil]
    · rw [ih (number / 58) (by omega), Nat.digits_def' (by decide) (Nat.pos_of_ne_zero zero),
        List.reverse_cons]

/-- A number is told by its digits. -/
theorem digits_injective : Function.Injective digits := by
  intro left right same
  rw [digits_eq_reverse, digits_eq_reverse, List.reverse_inj] at same
  exact Nat.digits_inj_iff.mp same

/-- Digits are below the base. -/
theorem lt_of_mem_digits {number value : Nat} (member : value ∈ digits number) : value < 58 := by
  rw [digits_eq_reverse, List.mem_reverse] at member
  exact Nat.digits_lt_base (by decide) member

/-- The first digit is not zero. -/
theorem head?_digits_ne_zero (number : Nat) : (digits number).head? ≠ some 0 := by
  rw [digits_eq_reverse, List.head?_reverse]
  intro last
  have nonempty : Nat.digits 58 number ≠ [] := by
    intro none
    rw [none] at last
    cases last
  rw [List.getLast?_eq_some_getLast nonempty, Option.some.injEq] at last
  exact Nat.getLast_digit_ne_zero 58 (Nat.digits_ne_nil_iff_ne_zero.mp nonempty) last

/-- A digit is told by its place among the characters. -/
theorem idxOf_digit {value : Nat} (small : value < 58) : alphabet.idxOf (digit value) = value := by
  have distinct : alphabet.Nodup := by decide
  have listed : value < alphabet.length := small
  rw [digit, List.getD_eq_getElem?_getD, List.getElem?_eq_getElem listed, Option.getD_some,
    distinct.idxOf_getElem]

/-- A row of digits is told by its characters. -/
theorem map_idxOf_map_digit {values : List Nat} (small : ∀ value ∈ values, value < 58) :
    (values.map digit).map alphabet.idxOf = values := by
  rw [List.map_map]
  exact (List.map_congr_left fun value member => idxOf_digit (small value member)).trans
    (List.map_id values)

/-! ### Numbers -/

/-- The number of a byte string is that of positional notation. -/
theorem ofBigEndian_eq_ofDigits (bytes : Bytes) :
    ofBigEndian bytes = Nat.ofDigits 256 (bytes.map UInt8.toNat).reverse := by
  rw [Nat.ofDigits_eq_foldr, List.foldr_reverse, List.foldl_map, ofBigEndian]
  congr 1
  funext number byte
  exact Nat.add_comm _ _

/-- Zero bytes in front do not count. -/
theorem ofBigEndian_replicate_append (zeros : Nat) (bytes : Bytes) :
    ofBigEndian (List.replicate zeros 0 ++ bytes) = ofBigEndian bytes := by
  induction zeros with
  | zero => rfl
  | succ zeros ih =>
    rw [List.replicate_succ, List.cons_append]
    exact ih

/-- Without zero bytes in front the bytes are the digits of their number. -/
theorem digits_ofBigEndian {bytes : Bytes} (first : bytes.head? ≠ some 0) :
    Nat.digits 256 (ofBigEndian bytes) = (bytes.map UInt8.toNat).reverse := by
  rw [ofBigEndian_eq_ofDigits]
  refine Nat.digits_ofDigits 256 (by decide) _ ?_ ?_
  · intro value member
    obtain ⟨byte, -, rfl⟩ := List.mem_map.mp (List.mem_reverse.mp member)
    exact byte.toNat_lt
  · intro nonempty last
    rw [List.getLast_reverse, List.head_map] at last
    have zero := UInt8.toNat_inj.mp (last.trans UInt8.toNat_zero.symm)
    exact first (zero ▸ List.head?_eq_some_head _)

/-- Byte strings without zero bytes in front are told by their numbers. -/
theorem eq_of_ofBigEndian_eq {left right : Bytes} (leftFirst : left.head? ≠ some 0)
    (rightFirst : right.head? ≠ some 0) (same : ofBigEndian left = ofBigEndian right) :
    left = right := by
  have digits := digits_ofBigEndian leftFirst
  rw [same, digits_ofBigEndian rightFirst, List.reverse_inj] at digits
  exact (List.map_injective_iff.mpr fun _ _ => UInt8.toNat_inj.mp) digits.symm

/-! ### Texts -/

/-- A list is a row of one element and a rest that does not start with it. -/
theorem exists_replicate_append {α : Type} [DecidableEq α] (element : α) (list : List α) :
    ∃ count rest, list = List.replicate count element ++ rest ∧ rest.head? ≠ some element := by
  induction list with
  | nil => exact ⟨0, [], rfl, by simp⟩
  | cons first list ih =>
    by_cases equal : first = element
    · obtain ⟨count, rest, rfl, other⟩ := ih
      exact ⟨count + 1, rest, by rw [equal, List.replicate_succ, List.cons_append], other⟩
    · exact ⟨0, first :: list, rfl, by simpa using equal⟩

/-- The row and the rest are determined. -/
theorem replicate_append_inj {α : Type} {element : α} {left right : Nat} {before after : List α}
    (beforeFirst : before.head? ≠ some element) (afterFirst : after.head? ≠ some element)
    (same : List.replicate left element ++ before = List.replicate right element ++ after) :
    left = right ∧ before = after := by
  induction left generalizing right with
  | zero =>
    cases right with
    | zero => exact ⟨rfl, same⟩
    | succ right => exact absurd (congrArg List.head? same) beforeFirst
  | succ left ih =>
    cases right with
    | zero => exact absurd (congrArg List.head? same).symm afterFirst
    | succ right =>
      obtain ⟨counts, rests⟩ := ih (List.cons.inj same).2
      exact ⟨congrArg Nat.succ counts, rests⟩

/-- The characters of a byte string: a digit zero for each zero byte in front, then its number. -/
theorem encode_replicate_append {zeros : Nat} {bytes : Bytes} (first : bytes.head? ≠ some 0) :
    (encode (List.replicate zeros 0 ++ bytes)).toList =
      List.replicate zeros '1' ++ (digits (ofBigEndian bytes)).map digit := by
  have front : bytes.takeWhile (· = 0) = [] := by
    cases bytes with
    | nil => rfl
    | cons byte bytes => exact List.takeWhile_cons_of_neg (by simpa using first)
  rw [encode, String.toList_ofList, ofBigEndian_replicate_append,
    List.takeWhile_append_of_pos (by simp), front, List.append_nil, List.map_replicate]

/-- The characters of a number do not start with a digit zero. -/
theorem head?_map_digit_ne (number : Nat) : ((digits number).map digit).head? ≠ some '1' := by
  rw [List.head?_map]
  intro first
  obtain ⟨value, head, zero⟩ := Option.map_eq_some_iff.mp first
  have small := lt_of_mem_digits (List.mem_of_head? head)
  have place : value = 0 := by
    rw [← idxOf_digit small, zero]
    rfl
  exact head?_digits_ne_zero number (place ▸ head)

/-- A byte string is told by its text. -/
theorem encode_injective : Function.Injective encode := by
  intro left right same
  obtain ⟨leftZeros, leftRest, rfl, leftFirst⟩ := exists_replicate_append 0 left
  obtain ⟨rightZeros, rightRest, rfl, rightFirst⟩ := exists_replicate_append 0 right
  have characters := congrArg String.toList same
  rw [encode_replicate_append leftFirst, encode_replicate_append rightFirst] at characters
  obtain ⟨rfl, spelled⟩ :=
    replicate_append_inj (head?_map_digit_ne _) (head?_map_digit_ne _) characters
  have numbers : digits (ofBigEndian leftRest) = digits (ofBigEndian rightRest) := by
    rw [← map_idxOf_map_digit fun _ => lt_of_mem_digits, spelled,
      map_idxOf_map_digit fun _ => lt_of_mem_digits]
  rw [eq_of_ofBigEndian_eq leftFirst rightFirst (digits_injective numbers)]

/-- The characters of a text are among those of the digits. -/
theorem mem_alphabet_of_mem_encode {c : Char} {bytes : Bytes} (member : c ∈ (encode bytes).toList) :
    c ∈ alphabet := by
  have listed (value : Nat) : digit value ∈ alphabet := by
    rw [digit, List.getD_eq_getElem?_getD]
    cases found : alphabet[value]? with
    | none => decide
    | some other => exact List.mem_of_getElem? found
  rw [encode, String.toList_ofList, List.mem_append, List.mem_map, List.mem_map] at member
  rcases member with ⟨_, -, rfl⟩ | ⟨value, -, rfl⟩
  · exact listed 0
  · exact listed value

end Base58

namespace Ss58

/-- An account is told by its address, whatever the check bytes are. -/
theorem address_injective : Function.Injective address := by
  intro left right same
  have bytes := Base58.encode_injective same
  rw [List.cons_append, List.cons_append, List.cons.injEq] at bytes
  exact FixedBytes.ext (List.append_inj bytes.2 (left.length_eq.trans right.length_eq.symm)).1

end Ss58

end EnclaveChain
