import EnclaveChain.Call.Runtime
import EnclaveChain.Proofs.Scale.Steady

/-!
# Inputs that end too early

A decoder that stops for want of bytes stands in front of a value that could still be read:
whatever was read so far can be gone on with to a whole value. To see it, bytes have to be found
for every place where a decoder can stop, which needs a value of every layout, and for an integer
in compact form one that its range check lets pass. Together with steadiness, which forbids that
any other failure is repaired by more bytes, this tells the two kinds of failure apart by what
more bytes can do.
-/
namespace EnclaveChain.Scale

namespace Decoder

variable {α β : Type}

/-- Some bytes are a value and no more. -/
def Filled (decoder : Decoder α) : Prop := ∃ bytes value, decoder bytes = .ok (value, [])

/-- An input that ends too early can be gone on with to a value and no more. -/
def Completable (decoder : Decoder α) : Prop :=
  ∀ ⦃bytes error⦄, decoder bytes = .error error → error.cause.isShort →
    ∃ more value, decoder (bytes ++ more) = .ok (value, [])

/-! ### Decoders that can be satisfied -/

/-- Bytes of the right number are all taken. -/
theorem take_of_length {count : Nat} {bytes : Bytes} (sized : bytes.length = count)
    (short : Cause) : take count short bytes = .ok (bytes, []) :=
  take_eq_ok_iff.mpr ⟨sized, (List.append_nil bytes).symm⟩

/-- Nothing is needed for a value that is there. -/
theorem done_filled (value : α) : (done value).Filled := ⟨[], value, rfl⟩

/-- So many bytes are found. -/
theorem take_filled (count : Nat) (short : Cause) : (take count short).Filled :=
  ⟨List.replicate count 0, _, take_of_length List.length_replicate short⟩

/-- A changed value needs the bytes of the value. -/
theorem Filled.map {decoder : Decoder α} (filled : decoder.Filled) (change : α → β) :
    (decoder.map change).Filled := by
  obtain ⟨bytes, value, decoded⟩ := filled
  exact ⟨bytes, change value, map_eq_ok_iff.mpr ⟨value, decoded, rfl⟩⟩

/-- And the value needs those of the changed one. -/
theorem Filled.of_map {decoder : Decoder α} {change : α → β}
    (filled : (decoder.map change).Filled) : decoder.Filled := by
  obtain ⟨bytes, _, changed⟩ := filled
  obtain ⟨value, decoded, -⟩ := map_eq_ok_iff.mp changed
  exact ⟨bytes, value, decoded⟩

/-- The name of a part needs no bytes. -/
theorem Filled.within {decoder : Decoder α} (filled : decoder.Filled) (part : Part) :
    (decoder.within part).Filled := by
  obtain ⟨bytes, value, decoded⟩ := filled
  exact ⟨bytes, value, within_eq_ok_iff.mpr decoded⟩

/-- The bytes of a second value follow those of the first. -/
theorem Filled.andThen {decoder : Decoder α} {next : α → Decoder β} (filled : decoder.Filled)
    (steady : decoder.Steady) (later : ∀ value, (next value).Filled) :
    (decoder.andThen next).Filled := by
  obtain ⟨bytes, first, decoded⟩ := filled
  obtain ⟨more, value, continued⟩ := later first
  exact ⟨bytes ++ more, value,
    andThen_eq_ok_iff.mpr ⟨first, more, steady.value more decoded, continued⟩⟩

/-- The bytes of an item can be repeated. -/
theorem Filled.times {item : Decoder α} (filled : item.Filled) (steady : item.Steady)
    (count : Nat) : (item.times count).Filled := by
  induction count with
  | zero => exact done_filled []
  | succ count ih =>
    rw [times_succ]
    exact filled.andThen steady fun first => ih.map _

/-! ### Decoders that can be completed -/

/-- A decoder that does not fail leaves nothing to complete. -/
theorem done_completable (value : α) : (done value).Completable := by
  intro bytes error failed
  cases failed

/-- Neither does one that wants no data. -/
theorem fail_completable {cause : Cause} (lasting : cause.isShort = false) :
    (fail cause : Decoder α).Completable := by
  intro bytes error failed short
  cases failed
  rw [DecodeError.bare, lasting] at short
  cases short

/-- Too few bytes become enough with zeros. -/
theorem take_completable (count : Nat) (short : Cause) : (take count short).Completable := by
  intro bytes error failed _
  obtain ⟨fewer, -⟩ := take_eq_error_iff.mp failed
  have padded : (bytes ++ List.replicate (count - bytes.length) 0).length = count := by
    rw [List.length_append, List.length_replicate]
    omega
  exact ⟨_, _, take_of_length padded short⟩

/-- A changed value is completed as the value is. -/
theorem Completable.map {decoder : Decoder α} (completable : decoder.Completable)
    (change : α → β) : (decoder.map change).Completable := by
  intro bytes error failed short
  obtain ⟨more, value, decoded⟩ := completable (map_eq_error_iff.mp failed) short
  exact ⟨more, change value, map_eq_ok_iff.mpr ⟨value, decoded, rfl⟩⟩

/-- And the value as the changed one. -/
theorem Completable.of_map {decoder : Decoder α} {change : α → β}
    (completable : (decoder.map change).Completable) : decoder.Completable := by
  intro bytes error failed short
  obtain ⟨more, _, changed⟩ := completable (map_eq_error_iff.mpr failed) short
  obtain ⟨value, decoded, -⟩ := map_eq_ok_iff.mp changed
  exact ⟨more, value, decoded⟩

/-- The name of a part changes nothing about its completion. -/
theorem Completable.within {decoder : Decoder α} (completable : decoder.Completable)
    (part : Part) : (decoder.within part).Completable := by
  intro bytes error failed short
  obtain ⟨inside, found, rfl⟩ := within_eq_error_iff.mp failed
  obtain ⟨more, value, decoded⟩ := completable found short
  exact ⟨more, value, within_eq_ok_iff.mpr decoded⟩

/-- Where the first value is cut off, it is completed and a second one put after it; where the
second value is cut off, it is completed. -/
theorem Completable.andThen {decoder : Decoder α} {next : α → Decoder β}
    (completable : decoder.Completable) (steady : decoder.Steady)
    (filled : ∀ value, (next value).Filled) (later : ∀ value, (next value).Completable) :
    (decoder.andThen next).Completable := by
  intro bytes error failed short
  rcases andThen_eq_error_iff.mp failed with before | ⟨first, middle, found, continued⟩
  · obtain ⟨more, first, decoded⟩ := completable before short
    obtain ⟨others, value, remaining⟩ := filled first
    refine ⟨more ++ others, value, andThen_eq_ok_iff.mpr ⟨first, others, ?_, remaining⟩⟩
    rw [← List.append_assoc]
    exact steady.value others decoded
  · obtain ⟨more, value, decoded⟩ := later first continued short
    exact ⟨more, value,
      andThen_eq_ok_iff.mpr ⟨first, middle ++ more, steady.value more found, decoded⟩⟩

/-- A vector that is cut off is completed with the rest of an item and with more items. -/
theorem Completable.times {item : Decoder α} (completable : item.Completable)
    (steady : item.Steady) (filled : item.Filled) (count : Nat) :
    (item.times count).Completable := by
  induction count with
  | zero => exact done_completable []
  | succ count ih =>
    rw [times_succ]
    exact completable.andThen steady (fun _ => (filled.times steady count).map _)
      fun _ => ih.map _

/-- A decoder that can be completed after any first byte, and from nothing, can be completed. -/
theorem Completable.of_after {decoder : Decoder α} (filled : decoder.Filled)
    (later : ∀ first, (decoder.after first).Completable) : decoder.Completable := by
  intro bytes error failed short
  cases bytes with
  | nil => exact filled
  | cons first tail => exact later first failed short

end Decoder

open Decoder

/-! ### Compact integers -/

/-- The highest digit counts most. -/
theorem Bytes.ofLittleEndian_append_singleton (front : Bytes) (byte : UInt8) :
    Bytes.ofLittleEndian (front ++ [byte]) =
      Bytes.ofLittleEndian front + 256 ^ front.length * byte.toNat := by
  induction front with
  | nil => simp [Bytes.ofLittleEndian]
  | cons first front ih =>
    simp only [List.cons_append, Bytes.ofLittleEndian, ih, List.length_cons, Nat.pow_succ]
    rw [Nat.mul_add, ← Nat.add_assoc, Nat.mul_comm (256 ^ _) 256, Nat.mul_assoc]

namespace Compact

/-- No more data can help a number that is below a bound. -/
theorem atLeast_lasting {width least value : Nat} {rest : Bytes} {error : DecodeError}
    (refused : atLeast width least value rest = .error error) : error.cause.isShort = false := by
  rw [atLeast_eq] at refused
  split at refused
  · cases refused
  · cases refused
    rfl

/-- Numbers that are bounded from below are completed with digits that make them large. -/
theorem bounded_completable {width least count : Nat} {number : Bytes → Nat}
    (large : ∀ front : Bytes, front.length + 1 = count → least ≤ number (front ++ [255])) :
    ((take count .endOfData).andThen fun bytes =>
      atLeast width least (number bytes)).Completable := by
  intro bytes error failed short
  rcases andThen_eq_error_iff.mp failed with before | ⟨digits, middle, -, refused⟩
  · obtain ⟨fewer, -⟩ := take_eq_error_iff.mp before
    -- Zeros and a last digit of 255, so that the number passes the bound.
    obtain ⟨more, sized, passed⟩ :
        ∃ more, (bytes ++ more).length = count ∧ least ≤ number (bytes ++ more) := by
      have padded : (bytes ++ List.replicate (count - bytes.length - 1) 0).length + 1 = count := by
        rw [List.length_append, List.length_replicate]
        omega
      refine ⟨List.replicate (count - bytes.length - 1) 0 ++ [255], ?_, ?_⟩
      · rw [← List.append_assoc, List.length_append, List.length_singleton, padded]
      · rw [← List.append_assoc]
        exact large _ padded
    exact ⟨more, number (bytes ++ more),
      andThen_eq_ok_iff.mpr ⟨bytes ++ more, [], take_of_length sized _, if_pos passed⟩⟩
  · rw [atLeast_lasting refused] at short
    cases short

/-- A last digit of 255 makes a number large. -/
theorem le_ofLittleEndian_append_singleton (front : Bytes) :
    255 * 256 ^ front.length ≤ Bytes.ofLittleEndian (front ++ [255]) := by
  rw [Bytes.ofLittleEndian_append_singleton, Nat.mul_comm]
  exact Nat.le_add_left _ _

/-- A number that shares its first byte with the mode can be completed if its form can hold a
number as large as the form asks for. -/
theorem shared_completable {width more least : Nat} (first : UInt8)
    (room : 4 * least ≤ 255 * 256 ^ more) : (shared width more least first).Completable := by
  apply bounded_completable
  intro front counted
  have high := le_ofLittleEndian_append_singleton (first :: front)
  rw [List.length_cons, counted] at high
  have enough : least * 4 ≤ Bytes.ofLittleEndian (first :: (front ++ [255])) := by
    rw [← List.cons_append]
    omega
  exact (Nat.le_div_iff_mul_le (by decide)).mpr enough

/-- A number in bytes of its own can be completed, unless there are too many of them. -/
theorem separate_completable {width count : Nat} (long : 4 ≤ count) :
    (separate width count).Completable := by
  unfold separate
  split
  · apply fail_completable
    unfold tooWide
    split <;> rfl
  · apply bounded_completable
    intro front counted
    have high := le_ofLittleEndian_append_singleton front
    have digits : 256 ^ 3 ≤ 256 ^ front.length := Nat.pow_le_pow_right (by decide) (by omega)
    have last : count - 1 = front.length := by omega
    rw [last]
    omega

/-- The byte zero is a compact integer. -/
theorem decode_filled (width : Nat) : (decode width).Filled := ⟨[0], 0, rfl⟩

/-- A compact integer can be completed. -/
theorem decode_completable (width : Nat) : (decode width).Completable := by
  refine Completable.of_after (decode_filled width) ?_
  intro first
  rw [after_decode]
  split
  · exact done_completable _
  · exact shared_completable first (by decide)
  · exact shared_completable first (by decide)
  · exact separate_completable (Nat.le_add_left 4 _)

end Compact

/-! ### Other plain layouts -/

/-- Some bytes are a truth value. -/
theorem decodeBool_filled : decodeBool.Filled := ⟨[0], false, rfl⟩

/-- A truth value lacks its byte at most. -/
theorem decodeBool_completable : decodeBool.Completable := by
  refine Completable.of_after decodeBool_filled ?_
  intro first
  rw [after_decodeBool]
  split
  · exact done_completable _
  · split
    · exact done_completable _
    · exact fail_completable rfl

/-- Some bytes are so many bytes. -/
theorem decodeArray_filled (size : Nat) : (decodeArray size).Filled := by
  have filled := take_filled size .endOfData
  rw [← map_decodeArray] at filled
  exact filled.of_map

/-- Too few bytes can be completed. -/
theorem decodeArray_completable (size : Nat) : (decodeArray size).Completable := by
  have completable := take_completable size .endOfData
  rw [← map_decodeArray] at completable
  exact completable.of_map

/-- Some bytes are an option, without a value. -/
theorem decodeOption_filled {α : Type} (value : Decoder α) : (decodeOption value).Filled :=
  ⟨[0], none, rfl⟩

/-- An option can be completed if its value can. -/
theorem decodeOption_completable {α : Type} {value : Decoder α}
    (completable : value.Completable) : (decodeOption value).Completable := by
  refine Completable.of_after (decodeOption_filled value) ?_
  intro first
  rw [after_decodeOption]
  split
  · exact done_completable _
  · split
    · exact (completable.within _).map _
    · exact fail_completable rfl

/-! ### All layouts with values -/

mutual

/-- Whether all choices inside have variants. -/
def Schema.hasVariants : {α : Type} → Schema α → Bool
  | _, .word _ => true
  | _, .compact _ => true
  | _, .bool => true
  | _, .array _ => true
  | _, .bytes => true
  | _, .list item => item.hasVariants
  | _, .option value => value.hasVariants
  | _, .alias _ inner => inner.hasVariants
  | _, .struct _ body => body.hasVariants
  | _, @Schema.choice tags _ _ cases => !tags.isEmpty && cases.hasVariants
  | _, .via _ inner => inner.hasVariants

/-- Whether all choices inside a body have variants. -/
def Body.hasVariants : {α : Type} → Body α → Bool
  | _, .nothing => true
  | _, .payload inner => inner.hasVariants
  | _, .record fields => fields.hasVariants

/-- Whether all choices inside named values have variants. -/
def Fields.hasVariants : {α : Type} → Fields α → Bool
  | _, .last _ only => only.hasVariants
  | _, .field _ first others => first.hasVariants && others.hasVariants

/-- Whether all choices inside variants have variants. -/
def Variants.hasVariants : {tags : List UInt8} → {α : Type} → Variants tags α → Bool
  | _, _, .none => true
  | _, _, .variant _ _ body others _ => body.hasVariants && others.hasVariants

end

mutual

/-- A layout whose choices have variants has values. -/
theorem Schema.decode_filled : {α : Type} → (schema : Schema α) → schema.hasVariants →
    schema.decode.Filled
  | _, .word width, _ => (take_filled width .endOfData).map _
  | _, .compact width, _ => (Compact.decode_filled width).map _
  | _, .bool, _ => decodeBool_filled
  | _, .array size, _ => decodeArray_filled size
  | _, .bytes, _ => ⟨[0], [], rfl⟩
  | _, .list _, _ => ⟨[0], [], rfl⟩
  | _, .option value, _ => decodeOption_filled value.decode
  | _, .alias _ inner, varied => inner.decode_filled varied
  | _, .struct type body, varied => body.decode_filled type varied
  | _, @Schema.choice tags _ type cases, varied => by
    rw [Schema.hasVariants, Bool.and_eq_true] at varied
    have nonempty : tags ≠ [] := by simpa using varied.1
    obtain ⟨tag, bytes, value, decoded⟩ := cases.decode_filled type varied.2 nonempty
    exact ⟨tag :: bytes, value, decoded⟩
  | _, .via iso inner, varied => (inner.decode_filled varied).map iso.make

/-- So has a body. -/
theorem Body.decode_filled : {α : Type} → (body : Body α) → (owner : String) →
    body.hasVariants → (body.decode owner).Filled
  | _, .nothing, _, _ => done_filled ()
  | _, .payload inner, _, varied => (inner.decode_filled varied).within _
  | _, .record fields, owner, varied => fields.decode_filled owner varied

/-- So have named values. -/
theorem Fields.decode_filled : {α : Type} → (fields : Fields α) → (owner : String) →
    fields.hasVariants → (fields.decode owner).Filled
  | _, .last _ only, _, varied => (only.decode_filled varied).within _
  | _, .field name first others, owner, varied => by
    rw [Fields.hasVariants, Bool.and_eq_true] at varied
    exact ((first.decode_filled varied.1).within (.named (owner ++ "::" ++ name))).andThen
      (first.decode_steady.within _) fun _ => (others.decode_filled owner varied.2).map _

/-- Of some variants, the first one has a value. -/
theorem Variants.decode_filled : {tags : List UInt8} → {α : Type} → (cases : Variants tags α) →
    (type : String) → cases.hasVariants → tags ≠ [] → ∃ tag, (cases.decode type tag).Filled
  | _, _, .none, _, _, nonempty => absurd rfl nonempty
  | _, _, .variant own name body others _, type, varied, _ => by
    rw [Variants.hasVariants, Bool.and_eq_true] at varied
    refine ⟨own, ?_⟩
    rw [Variants.decode, if_pos rfl]
    exact (body.decode_filled (type ++ "::" ++ name) varied.1).map Sum.inl

end

mutual

/-- A layout whose choices have variants goes on wherever the input ends. -/
theorem Schema.decode_completable : {α : Type} → (schema : Schema α) → schema.hasVariants →
    schema.decode.Completable
  | _, .word width, _ => (take_completable width .endOfData).map _
  | _, .compact width, _ => (Compact.decode_completable width).map _
  | _, .bool, _ => decodeBool_completable
  | _, .array size, _ => decodeArray_completable size
  | _, .bytes, _ =>
    (Compact.decode_completable 4).andThen (steady_law.compact 4)
      (fun count => take_filled count _) fun count => take_completable count _
  | _, .list item, varied => by
    have filled := item.decode_filled varied
    have completable := item.decode_completable varied
    exact (Compact.decode_completable 4).andThen (steady_law.compact 4)
      (filled.times item.decode_steady) (completable.times item.decode_steady filled)
  | _, .option value, varied => decodeOption_completable (value.decode_completable varied)
  | _, .alias _ inner, varied => inner.decode_completable varied
  | _, .struct type body, varied => body.decode_completable type varied
  | _, .choice type cases, varied => by
    refine Completable.of_after ((Schema.choice type cases).decode_filled varied) ?_
    intro tag
    rw [after_decode_choice]
    rw [Schema.hasVariants, Bool.and_eq_true] at varied
    exact cases.decode_completable type tag varied.2
  | _, .via iso inner, varied => (inner.decode_completable varied).map iso.make

/-- So does a body. -/
theorem Body.decode_completable : {α : Type} → (body : Body α) → (owner : String) →
    body.hasVariants → (body.decode owner).Completable
  | _, .nothing, _, _ => done_completable ()
  | _, .payload inner, _, varied => (inner.decode_completable varied).within _
  | _, .record fields, owner, varied => fields.decode_completable owner varied

/-- So do named values. -/
theorem Fields.decode_completable : {α : Type} → (fields : Fields α) → (owner : String) →
    fields.hasVariants → (fields.decode owner).Completable
  | _, .last _ only, _, varied => (only.decode_completable varied).within _
  | _, .field name first others, owner, varied => by
    rw [Fields.hasVariants, Bool.and_eq_true] at varied
    exact ((first.decode_completable varied.1).within (.named (owner ++ "::" ++ name))).andThen
      (first.decode_steady.within _) (fun _ => (others.decode_filled owner varied.2).map _)
      fun _ => (others.decode_completable owner varied.2).map _

/-- So do variants after any tag. -/
theorem Variants.decode_completable : {tags : List UInt8} → {α : Type} →
    (cases : Variants tags α) → (type : String) → (tag : UInt8) → cases.hasVariants →
    (cases.decode type tag).Completable
  | _, _, .none, _, _, _ => fail_completable rfl
  | _, _, .variant own name body others _, type, tag, varied => by
    rw [Variants.hasVariants, Bool.and_eq_true] at varied
    rw [Variants.decode]
    by_cases same : tag = own
    · rw [if_pos same]
      exact (body.decode_completable (type ++ "::" ++ name) varied.1).map Sum.inl
    · rw [if_neg same]
      exact (others.decode_completable type tag varied.2).map Sum.inr

end

/-- A layout whose choices have variants stops for want of bytes exactly on an input that is no
value but the beginning of one. -/
theorem Schema.decode_short_iff {α : Type} {schema : Schema α} (varied : schema.hasVariants)
    {bytes : Bytes} {error : DecodeError} (failed : schema.decode bytes = .error error) :
    error.cause.isShort ↔ ∃ more value rest, schema.decode (bytes ++ more) = .ok (value, rest) := by
  constructor
  · intro short
    obtain ⟨more, value, decoded⟩ := schema.decode_completable varied failed short
    exact ⟨more, value, [], decoded⟩
  · rintro ⟨more, value, rest, decoded⟩
    cases lasting : error.cause.isShort with
    | true => rfl
    | false =>
      have again := schema.decode_steady.fault more failed lasting
      rw [decoded] at again
      cases again

end EnclaveChain.Scale

namespace EnclaveChain

/-- A decode that runs out of data is one that more data could have completed, and only that. A
byte string is refused as a call with one of the two texts that say so at the root exactly when it
is refused and there are bytes with which it would not have been. -/
theorem calls_short_iff_completable (bytes : Bytes) :
    (∃ error, RuntimeCall.decode bytes = .error error ∧
      (error.cause.message = "Not enough data to fill buffer" ∨
        error.cause.message = "Not enough data to decode vector")) ↔
    (∃ error, RuntimeCall.decode bytes = .error error) ∧
      ∃ more call rest, RuntimeCall.decode (bytes ++ more) = .ok (call, rest) := by
  have varied : RuntimeCall.schema.hasVariants := rfl
  constructor
  · rintro ⟨error, failed, short⟩
    rw [← Scale.Cause.isShort_iff_message] at short
    exact ⟨⟨error, failed⟩, (Scale.Schema.decode_short_iff varied failed).mp short⟩
  · rintro ⟨⟨error, failed⟩, completed⟩
    have short := (Scale.Schema.decode_short_iff varied failed).mpr completed
    exact ⟨error, failed, (Scale.Cause.isShort_iff_message _).mp short⟩

end EnclaveChain
