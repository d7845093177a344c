import EnclaveChain.Proofs.Scale.Compact

/-!
# Every layout is exact

A schema reads exactly the encodings of its values: reading an encoding in front of any bytes
returns the value and those bytes, and whatever is read stood in the input as the encoding of the
value (`Schema.decode_reads`). It holds of all layouts at once, by one induction over schemas, and
needs no more of a value than that its vectors are not too long for their length prefixes.
-/
namespace EnclaveChain.Scale

open Decoder

mutual

/-- Whether all vectors in a value have fewer than `2 ^ 32` items. -/
def Schema.fits : {α : Type} → Schema α → α → Bool
  | _, .word _, _ => true
  | _, .compact _, _ => true
  | _, .bool, _ => true
  | _, .array _, _ => true
  | _, .bytes, value => value.length < 2 ^ 32
  | _, .list item, values => values.length < 2 ^ 32 && values.all item.fits
  | _, .option _, none => true
  | _, .option inner, some value => inner.fits value
  | _, .alias _ inner, value => inner.fits value
  | _, .struct _ body, value => body.fits value
  | _, .choice _ cases, value => cases.fits value
  | _, .via iso inner, value => inner.fits (iso.parts value)

/-- Whether all vectors in a body have fewer than `2 ^ 32` items. -/
def Body.fits : {α : Type} → Body α → α → Bool
  | _, .nothing, _ => true
  | _, .payload inner, value => inner.fits value
  | _, .record fields, values => fields.fits values

/-- Whether all vectors in named values have fewer than `2 ^ 32` items. -/
def Fields.fits : {α : Type} → Fields α → α → Bool
  | _, .last _ only, value => only.fits value
  | _, .field _ first others, (value, values) => first.fits value && others.fits values

/-- Whether all vectors in a variant have fewer than `2 ^ 32` items. -/
def Variants.fits : {tags : List UInt8} → {α : Type} → Variants tags α → α → Bool
  | _, _, .none, value => nomatch value
  | _, _, .variant _ _ body _ _, .inl value => body.fits value
  | _, _, .variant _ _ _ others _, .inr value => others.fits value

end

/-! ### The layouts that are not made of others -/

/-- An integer of some bytes is below the number of their values. -/
theorem toNat_lt_pow {width : Nat} (value : BitVec (8 * width)) : value.toNat < 256 ^ width := by
  rw [show 256 ^ width = 2 ^ (8 * width) from (Nat.pow_mul 2 8 width).symm]
  exact value.isLt

/-- A number below the number of values of some bytes is an integer of these bytes. -/
theorem toNat_ofNat_of_lt {width number : Nat} (bound : number < 256 ^ width) :
    (BitVec.ofNat (8 * width) number).toNat = number := by
  rw [show 256 ^ width = 2 ^ (8 * width) from (Nat.pow_mul 2 8 width).symm] at bound
  rw [BitVec.toNat_ofNat, Nat.mod_eq_of_lt bound]

/-- An unsigned integer is read from its digits. -/
theorem word_reads (width : Nat) :
    (Schema.word width).decode.Reads ((Schema.word width).fits ·) (Schema.word width).encode := by
  have digits : ∀ bytes : Bytes, bytes.length = width →
      Bytes.littleEndian width (BitVec.ofNat (8 * width) (Bytes.ofLittleEndian bytes)).toNat =
        bytes := by
    rintro bytes rfl
    rw [toNat_ofNat_of_lt (Bytes.ofLittleEndian_lt bytes), Bytes.littleEndian_ofLittleEndian]
  have number : ∀ value : BitVec (8 * width),
      BitVec.ofNat (8 * width) (Bytes.ofLittleEndian (Bytes.littleEndian width value.toNat)) =
        value := by
    intro value
    rw [Bytes.ofLittleEndian_littleEndian (toNat_lt_pow value), BitVec.ofNat_toNat,
      BitVec.setWidth_eq]
  apply ((take_reads width .endOfData).map
    (fun bytes => BitVec.ofNat (8 * width) (Bytes.ofLittleEndian bytes))
    (fun value => Bytes.littleEndian width value.toNat) digits number).congr
  · intro value
    simp [Schema.fits]
  · intro value
    rfl

/-- A compact integer is read from its shortest form. -/
theorem compact_reads (width : Nat) (supported : 4 ≤ width ∧ width ≤ 67) :
    (@Schema.compact width supported).decode.Reads ((@Schema.compact width supported).fits ·)
      (@Schema.compact width supported).encode := by
  have same : ∀ value : BitVec (8 * width), BitVec.ofNat (8 * width) value.toNat = value := by
    intro value
    rw [BitVec.ofNat_toNat, BitVec.setWidth_eq]
  apply ((Compact.decode_reads supported).map (BitVec.ofNat (8 * width)) BitVec.toNat
    (fun _ => toNat_ofNat_of_lt) same).congr
  · intro value
    simp [Schema.fits, toNat_lt_pow value]
  · intro value
    rfl

/-- A truth value is read from the bytes zero and one. -/
theorem bool_reads : decodeBool.Reads (Schema.bool.fits ·) Schema.bool.encode := by
  intro bytes value rest
  cases bytes with
  | nil => simp [decodeBool, Schema.encode]
  | cons byte tail =>
    rw [decodeBool]
    by_cases zero : byte = 0
    · cases value <;> simp [zero, Schema.fits, Schema.encode]
    · by_cases one : byte = 1
      · cases value <;> simp [one, Schema.fits, Schema.encode]
      · cases value <;> simp [zero, one, Schema.encode]

/-- A fixed number of bytes is read as they stand. -/
theorem array_reads (size : Nat) :
    (decodeArray size).Reads ((Schema.array size).fits ·) (Schema.array size).encode := by
  intro bytes value rest
  rw [decodeArray]
  split
  · rename_i short
    simp only [reduceCtorEq, Schema.fits, true_and, false_iff, Schema.encode]
    rintro rfl
    have cut := Bytes.splitFront?_append value.toList rest
    rw [value.length_eq, short] at cut
    cases cut
  · rename_i front tail found
    obtain ⟨rfl, sized⟩ := Bytes.append_of_splitFront? found
    simp only [Except.ok.injEq, Prod.mk.injEq, Schema.fits, true_and, Schema.encode]
    constructor
    · rintro ⟨rfl, rfl⟩
      rfl
    · intro same
      obtain ⟨rfl, rfl⟩ := List.append_inj same (by rw [sized, value.length_eq])
      exact ⟨rfl, rfl⟩

/-- The prefix of a vector is read when its length is below `2 ^ 32`. -/
theorem length_reads : (Compact.decode 4).Reads (· < 2 ^ 32) Compact.encode :=
  (Compact.decode_reads (by decide)).congr (fun _ => Iff.rfl) fun _ => rfl

/-- A byte vector is read from its length and its bytes. -/
theorem bytes_reads : Schema.bytes.decode.Reads (Schema.bytes.fits ·) Schema.bytes.encode := by
  have later (count : Nat) : (take count .endOfVector).Reads
      (fun value => value.length = count ∧ True) id :=
    (take_reads count .endOfVector).congr (fun _ => (and_iff_left trivial).symm) fun _ => rfl
  apply (length_reads.andThen later).congr
  · intro value
    simp [Schema.fits]
  · intro value
    rfl

/-! ### The layouts that are made of others -/

variable {α : Type}

/-- A vector is read from its length and its items. -/
theorem list_reads {item : Schema α} (reads : item.decode.Reads (item.fits ·) item.encode) :
    (Schema.list item).decode.Reads ((Schema.list item).fits ·) (Schema.list item).encode := by
  apply (length_reads.andThen reads.times).congr
  · intro values
    simp [Schema.fits]
  · intro values
    rfl

/-- A value that may be absent is read from a zero byte or from a one byte and the value. -/
theorem option_reads {inner : Schema α} (reads : inner.decode.Reads (inner.fits ·) inner.encode) :
    (Schema.option inner).decode.Reads ((Schema.option inner).fits ·)
      (Schema.option inner).encode := by
  intro bytes value rest
  rw [Schema.decode]
  cases bytes with
  | nil => cases value <;> simp [decodeOption, Schema.encode]
  | cons byte tail =>
    rw [decodeOption]
    by_cases zero : byte = 0
    · cases value <;> simp [zero, Schema.fits, Schema.encode]
    · by_cases one : byte = 1
      · have inside := reads tail
        rw [if_neg zero, if_pos one, map_eq_ok_iff]
        simp only [within_eq_ok_iff, inside]
        cases value <;> simp [one, Schema.fits, Schema.encode]
      · cases value <;> simp [zero, one, Schema.encode, Schema.fits]

/-- The first byte of a variant is one of the tags. -/
theorem Variants.encode_eq_cons : {tags : List UInt8} → {α : Type} → (cases : Variants tags α) →
    (value : α) → ∃ tag ∈ tags, ∃ bytes, cases.encode value = tag :: bytes
  | _, _, .none, value => nomatch value
  | _, _, .variant tag _ body _ _, .inl value =>
    ⟨tag, List.mem_cons_self, body.encode value, by rw [Variants.encode]⟩
  | _, _, .variant _ _ _ others _, .inr value => by
    obtain ⟨tag, member, bytes, same⟩ := others.encode_eq_cons value
    exact ⟨tag, List.mem_cons_of_mem _ member, bytes, by rw [Variants.encode, same]⟩

mutual

/-- A schema reads exactly the encodings of the values whose vectors are not too long. -/
theorem Schema.decode_reads : {α : Type} → (schema : Schema α) →
    schema.decode.Reads (schema.fits ·) schema.encode
  | _, .word width => word_reads width
  | _, @Schema.compact width supported => compact_reads width supported
  | _, .bool => bool_reads
  | _, .array size => array_reads size
  | _, .bytes => bytes_reads
  | _, .list item => list_reads item.decode_reads
  | _, .option inner => option_reads inner.decode_reads
  | _, .alias _ inner => inner.decode_reads
  | _, .struct type body => body.decode_reads type
  | _, .choice type cases => by
    intro bytes value rest
    simp only [Schema.decode, Schema.fits, Schema.encode]
    cases bytes with
    | nil =>
      obtain ⟨tag, -, body, encoded⟩ := cases.encode_eq_cons value
      simp [encoded]
    | cons tag tail => exact cases.decode_eq_ok_iff type tag
  | _, .via iso inner =>
    inner.decode_reads.map iso.make iso.parts (fun value _ => iso.parts_make value) iso.make_parts

/-- A body reads exactly its encodings, whatever owns it. -/
theorem Body.decode_reads : {α : Type} → (body : Body α) → (owner : String) →
    (body.decode owner).Reads (body.fits ·) body.encode
  | _, .nothing, _ => by
    intro bytes value rest
    simp [Body.decode, Body.fits, Body.encode]
  | _, .payload inner, _ => inner.decode_reads.within _
  | _, .record fields, owner => fields.decode_reads owner

/-- Named values are read from their encodings in order. -/
theorem Fields.decode_reads : {α : Type} → (fields : Fields α) → (owner : String) →
    (fields.decode owner).Reads (fields.fits ·) fields.encode
  | _, .last _ only, _ => only.decode_reads.within _
  | _, .field name first others, owner => by
    apply ((first.decode_reads.within (.named (owner ++ "::" ++ name))).andThen
      (others.decode_reads owner).pairWith).congr
    · rintro ⟨value, values⟩
      simp [Fields.fits]
    · rintro ⟨value, values⟩
      rw [Fields.encode]

/-- A variant is read after its own tag and no other one. -/
theorem Variants.decode_eq_ok_iff : {tags : List UInt8} → {α : Type} → (cases : Variants tags α) →
    (type : String) → (tag : UInt8) → {bytes rest : Bytes} → {value : α} →
    (cases.decode type tag bytes = .ok (value, rest) ↔
      cases.fits value ∧ tag :: bytes = cases.encode value ++ rest)
  | _, _, .none, _, _, _, _, value => nomatch value
  | _, _, .variant own name body others fresh, type, tag, bytes, rest, value => by
    rw [Variants.decode]
    by_cases same : tag = own
    · rw [if_pos same, map_eq_ok_iff]
      cases value with
      | inl value =>
        have inside := body.decode_reads (type ++ "::" ++ name) bytes value rest
        simp [inside, Variants.fits, Variants.encode, same]
      | inr value =>
        -- The other variants have other tags.
        obtain ⟨other, member, encoded, begins⟩ := others.encode_eq_cons value
        have apart : own ≠ other := by
          rintro rfl
          exact fresh member
        simp [Variants.encode, begins, same, apart]
    · rw [if_neg same, map_eq_ok_iff]
      cases value with
      | inl value => simp [Variants.encode, same]
      | inr value =>
        have inside : others.decode type tag bytes = .ok (value, rest) ↔
            others.fits value ∧ tag :: bytes = others.encode value ++ rest :=
          others.decode_eq_ok_iff type tag
        simp [inside, Variants.fits, Variants.encode]

end

/-! ### The two laws of a layout -/

/-- The encoding of a value, followed by any bytes, is read as the value and leaves those bytes. -/
def Schema.Lawful (schema : Schema α) : Prop :=
  ∀ value rest, schema.fits value → schema.decode (schema.encode value ++ rest) = .ok (value, rest)

/-- Whatever is read as a value stood in the input as its encoding. -/
def Schema.Canonical (schema : Schema α) : Prop :=
  ∀ bytes value rest, schema.decode bytes = .ok (value, rest) → bytes = schema.encode value ++ rest

/-- Every layout reads its encodings back. -/
theorem Schema.lawful (schema : Schema α) : schema.Lawful := fun _ _ fitting =>
  (schema.decode_reads _ _ _).mpr ⟨fitting, rfl⟩

/-- No layout reads anything else. -/
theorem Schema.canonical (schema : Schema α) : schema.Canonical := fun _ _ _ decoded =>
  ((schema.decode_reads _ _ _).mp decoded).2

/-- A byte string is used up exactly when it is the encoding of a value that fits. -/
theorem Schema.decodeAll_eq_ok_iff (schema : Schema α) {bytes : Bytes} {value : α} :
    schema.decodeAll bytes = .ok value ↔ schema.fits value ∧ bytes = schema.encode value := by
  rw [Schema.decodeAll, all_eq_ok_iff]
  simpa using schema.decode_reads bytes value []

/-- Encodings of two values that begin alike are of one value and end together. -/
theorem Schema.encode_append_inj (schema : Schema α) {left right : α} {leftRest rightRest : Bytes}
    (leftFits : schema.fits left) (rightFits : schema.fits right)
    (same : schema.encode left ++ leftRest = schema.encode right ++ rightRest) :
    left = right ∧ leftRest = rightRest :=
  schema.decode_reads.encode_append_inj leftFits rightFits same

end EnclaveChain.Scale
