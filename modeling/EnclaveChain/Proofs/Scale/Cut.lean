import EnclaveChain.Call.Runtime
import EnclaveChain.Proofs.Scale.Span
import EnclaveChain.Proofs.Scale.Steady

/-!
# Encodings that are cut off

Where the encoding of a value is cut off, its decoder stops for want of data and names the parts
around the first byte that is missing, outermost first. That it stops for want of data follows from
steadiness alone, for with the missing bytes it would have read the value. Which parts it names is
shown for each way to join decoders against the spans of the joined values, and so holds of every
layout (`Schema.charted`). Integers, truth values and bytes have no parts, and their decoders name
none (`Decoder.Bare`).
-/
namespace EnclaveChain.Scale

namespace Decoder

variable {α β : Type}

/-! ### Decoders that name no parts -/

/-- A decoder names no part in any failure. -/
def Bare (decoder : Decoder α) : Prop :=
  ∀ ⦃bytes error⦄, decoder bytes = .error error → error.parts = []

/-- A decoder that does not fail names nothing. -/
theorem done_bare (value : α) : (done value).Bare := by
  intro bytes error failed
  cases failed

/-- A failure alone has no part. -/
theorem fail_bare (cause : Cause) : (fail cause : Decoder α).Bare := by
  intro bytes error failed
  cases failed
  rfl

/-- Too few bytes have no part. -/
theorem take_bare (count : Nat) (short : Cause) : (take count short).Bare := by
  intro bytes error failed
  obtain ⟨-, rfl⟩ := take_eq_error_iff.mp failed
  rfl

/-- A changed value names what the value does. -/
theorem Bare.map {decoder : Decoder α} (bare : decoder.Bare) (change : α → β) :
    (decoder.map change).Bare := by
  intro bytes error failed
  exact bare (map_eq_error_iff.mp failed)

/-- And the value names what the changed one does. -/
theorem Bare.of_map {decoder : Decoder α} {change : α → β} (bare : (decoder.map change).Bare) :
    decoder.Bare := by
  intro bytes error failed
  exact bare (map_eq_error_iff.mpr failed)

/-- Two values name what the first or the second names. -/
theorem Bare.andThen {decoder : Decoder α} {next : α → Decoder β} (bare : decoder.Bare)
    (later : ∀ value, (next value).Bare) : (decoder.andThen next).Bare := by
  intro bytes error failed
  rcases andThen_eq_error_iff.mp failed with before | ⟨first, middle, -, continued⟩
  · exact bare before
  · exact later first continued

/-- A missing first byte need not be a part. -/
theorem Bare.of_after {decoder : Decoder α} {cause : Cause}
    (empty : decoder [] = .error (.bare cause)) (later : ∀ first, (decoder.after first).Bare) :
    decoder.Bare := by
  intro bytes error failed
  cases bytes with
  | nil =>
    rw [empty] at failed
    cases failed
    rfl
  | cons first tail => exact later first failed

/-- A compact integer has no parts. -/
theorem compact_bare (width : Nat) : (Compact.decode width).Bare := by
  have bounded (count least : Nat) (number : Bytes → Nat) :
      ((take count .endOfData).andThen fun bytes =>
        Compact.atLeast width least (number bytes)).Bare := by
    refine (take_bare count .endOfData).andThen ?_
    intro bytes
    rw [Compact.atLeast_eq]
    split
    · exact done_bare _
    · exact fail_bare _
  refine Bare.of_after rfl ?_
  intro first
  rw [Compact.after_decode]
  split
  · exact done_bare _
  · exact bounded _ _ _
  · exact bounded _ _ _
  · unfold Compact.separate
    split
    · exact fail_bare _
    · exact bounded _ _ _

/-- A truth value has no parts. -/
theorem bool_bare : decodeBool.Bare := by
  refine Bare.of_after rfl ?_
  intro first
  rw [after_decodeBool]
  split
  · exact done_bare _
  · split
    · exact done_bare _
    · exact fail_bare _

/-- Bytes of a known number have no parts. -/
theorem array_bare (size : Nat) : (decodeArray size).Bare := by
  have bare := take_bare size .endOfData
  rw [← map_decodeArray] at bare
  exact bare.of_map

/-! ### Decoders that stop where their input ends -/

/-- A decoder reads a byte string whose parts stand at the spans, and where the string is cut off
it stops for want of data and names the parts around the first byte that is missing. -/
structure Charted (decoder : Decoder α) (bytes : Bytes) (spans : List Span) : Prop extends
    Span.Chart spans bytes where
  /-- A cut is noticed and blamed on the parts around it. -/
  stops : ∀ {kept}, kept < bytes.length → ∃ cause : Cause, cause.isShort ∧
    decoder (bytes.take kept) = .error ⟨(Span.around spans kept).map Span.part, cause⟩

/-- A byte string that is read to its end cannot be cut off without a want of data: with the bytes
that are missing a value or another failure would stay what it is. -/
theorem Steady.stops {decoder : Decoder α} (steady : decoder.Steady) {bytes : Bytes} {value : α}
    (read : decoder bytes = .ok (value, [])) {kept : Nat} (cut : kept < bytes.length) :
    ∃ error, decoder (bytes.take kept) = .error error ∧ error.cause.isShort := by
  have whole : bytes.take kept ++ bytes.drop kept = bytes := List.take_append_drop kept bytes
  have missing : bytes.drop kept ≠ [] := by
    rw [Ne, List.drop_eq_nil_iff]
    omega
  cases outcome : decoder (bytes.take kept) with
  | ok found =>
    obtain ⟨early, rest⟩ := found
    have again := steady.value (bytes.drop kept) outcome
    rw [whole, read] at again
    injection again with same
    have none : rest ++ bytes.drop kept = [] := (congrArg Prod.snd same).symm
    exact absurd (List.append_eq_nil_iff.mp none).2 missing
  | error error =>
    refine ⟨error, rfl, ?_⟩
    cases short : error.cause.isShort with
    | true => rfl
    | false =>
      have again := steady.fault (bytes.drop kept) outcome short
      rw [whole, read] at again
      cases again

/-- A decoder that names no parts is charted without spans. -/
theorem Bare.charted {decoder : Decoder α} (bare : decoder.Bare) (steady : decoder.Steady)
    {bytes : Bytes} {value : α} (read : decoder bytes = .ok (value, [])) :
    decoder.Charted bytes [] where
  toChart := Span.Chart.empty bytes
  stops := by
    intro kept cut
    obtain ⟨⟨parts, cause⟩, failed, short⟩ := steady.stops read cut
    obtain rfl : parts = [] := bare failed
    exact ⟨cause, short, failed⟩

/-- Nothing to read cannot be cut off. -/
theorem done_charted (value : α) : (done value).Charted [] [] where
  toChart := Span.Chart.empty []
  stops := by
    intro kept cut
    cases cut

/-- A changed value has the parts of the value. -/
theorem Charted.map {decoder : Decoder α} {bytes : Bytes} {spans : List Span}
    (charted : decoder.Charted bytes spans) (change : α → β) :
    (decoder.map change).Charted bytes spans where
  toChart := charted.toChart
  stops := by
    intro kept cut
    obtain ⟨cause, short, failed⟩ := charted.stops cut
    exact ⟨cause, short, map_eq_error_iff.mpr failed⟩

/-- The name of a part is put around the parts inside. -/
theorem Charted.within {decoder : Decoder α} {bytes : Bytes} {spans : List Span}
    (charted : decoder.Charted bytes spans) (part : Part) :
    (decoder.within part).Charted bytes (⟨part, 0, bytes⟩ :: spans) where
  toChart := charted.toChart.whole part
  stops := by
    intro kept cut
    obtain ⟨cause, short, failed⟩ := charted.stops cut
    refine ⟨cause, short, within_eq_error_iff.mpr ⟨_, failed, ?_⟩⟩
    rw [Span.around_whole part cut]
    rfl

/-- A cut goes through the first of two values or, if that is whole, through the second. -/
theorem Charted.andThen {decoder : Decoder α} {next : α → Decoder β} {front back : Bytes}
    {spans later : List Span} {value : α} (charted : decoder.Charted front spans)
    (read : ∀ rest, decoder (front ++ rest) = .ok (value, rest))
    (second : (next value).Charted back later) :
    (decoder.andThen next).Charted (front ++ back)
      (spans ++ later.map (Span.shift front.length)) where
  toChart := charted.toChart.append second.toChart
  stops := by
    intro kept cut
    by_cases inside : kept < front.length
    · obtain ⟨cause, short, failed⟩ := charted.stops inside
      refine ⟨cause, short, ?_⟩
      rw [Span.around_append_shift_of_lt inside,
        List.take_append_of_le_length (Nat.le_of_lt inside)]
      exact andThen_eq_error_iff.mpr (.inl failed)
    · have behind : front.length ≤ kept := Nat.le_of_not_lt inside
      rw [List.length_append] at cut
      have left : kept - front.length < back.length := by omega
      obtain ⟨cause, short, failed⟩ := second.stops left
      refine ⟨cause, short, ?_⟩
      rw [charted.toChart.around_append_shift_of_le behind, Span.map_part_shift,
        List.take_append, List.take_of_length_le behind]
      exact andThen_eq_error_iff.mpr (.inr ⟨value, _, read _, failed⟩)

/-- A first byte that is a part of its own, and what is read after it. -/
theorem Charted.ofFirst {decoder : Decoder α} {part : Part} {first : UInt8} {rest : Bytes}
    {spans : List Span} (empty : decoder [] = .error ⟨[part], .endOfData⟩)
    (later : (decoder.after first).Charted rest spans) :
    decoder.Charted (first :: rest) (⟨part, 0, [first]⟩ :: spans.map (Span.shift 1)) where
  toChart := ((Span.Chart.empty [first]).whole part).append later.toChart
  stops := by
    intro kept cut
    have only : Span.Chart [⟨part, 0, [first]⟩] [first] := (Span.Chart.empty [first]).whole part
    cases kept with
    | zero =>
      refine ⟨.endOfData, rfl, ?_⟩
      have missing : Span.around (⟨part, 0, [first]⟩ :: spans.map (Span.shift 1)) 0 =
          [⟨part, 0, [first]⟩] := by
        rw [Span.around_whole part Nat.zero_lt_one, Span.around_shift_of_lt Nat.zero_lt_one]
      rw [List.take_zero, empty, missing]
      rfl
    | succ kept =>
      obtain ⟨cause, short, failed⟩ := later.stops (Nat.lt_of_succ_lt_succ cut)
      refine ⟨cause, short, ?_⟩
      have inside : Span.around (⟨part, 0, [first]⟩ :: spans.map (Span.shift 1)) (kept + 1) =
          (Span.around spans kept).map (Span.shift 1) :=
        only.around_append_shift_of_le (Nat.le_add_left 1 kept)
      rw [inside, Span.map_part_shift]
      exact failed

/-- The items of a vector are cut off one at a time. -/
theorem Charted.times {item : Decoder α} {encode : α → Bytes} {spans : α → List Span}
    {values : List α} (charted : ∀ value ∈ values, item.Charted (encode value) (spans value))
    (read : ∀ value ∈ values, ∀ rest, item (encode value ++ rest) = .ok (value, rest)) :
    (item.times values.length).Charted (values.flatMap encode)
      (Span.consecutive encode spans values) := by
  induction values with
  | nil => exact done_charted []
  | cons first values ih =>
    rw [List.forall_mem_cons] at charted read
    rw [List.length_cons, times_succ, List.flatMap_cons]
    exact charted.1.andThen read.1 ((ih charted.2 read.2).map _)

end Decoder

open Decoder

/-! ### All layouts -/

/-- A layout whose decoder names no parts has no spans. -/
theorem Schema.charted_of_bare {α : Type} (schema : Schema α) (bare : schema.decode.Bare)
    {value : α} (fits : schema.fits value) :
    schema.decode.Charted (schema.encode value) [] := by
  have read : schema.decode (schema.encode value) = .ok (value, []) := by
    simpa using schema.lawful value [] fits
  exact bare.charted schema.decode_steady read

/-- A vector is cut off in its length or in one of its items. -/
theorem list_charted {α : Type} {item : Schema α} {values : List α}
    (fits : (Schema.list item).fits values)
    (charted : ∀ value ∈ values, item.decode.Charted (item.encode value) (item.spans value)) :
    (Schema.list item).decode.Charted ((Schema.list item).encode values)
      ((Schema.list item).spans values) := by
  rw [Schema.fits, Bool.and_eq_true, decide_eq_true_eq, List.all_eq_true] at fits
  have length (rest : Bytes) :
      Compact.decode 4 (Compact.encode values.length ++ rest) = .ok (values.length, rest) :=
    (length_reads _ _ _).mpr ⟨fits.1, rfl⟩
  have counted : (Compact.decode 4).Charted (Compact.encode values.length) [] :=
    (compact_bare 4).charted (steady_law.compact 4) (by simpa using length [])
  have items := Charted.times charted fun value member rest =>
    item.lawful value rest (fits.2 value member)
  exact counted.andThen length items

/-- A value that may be absent is cut off at its first byte or inside. -/
theorem option_charted {α : Type} {inner : Schema α} {value : Option α}
    (charted : ∀ present ∈ value,
      inner.decode.Charted (inner.encode present) (inner.spans present)) :
    (Schema.option inner).decode.Charted ((Schema.option inner).encode value)
      ((Schema.option inner).spans value) := by
  cases value with
  | none =>
    have later : ((Schema.option inner).decode.after 0).Charted [] [] := by
      rw [Schema.decode, after_decodeOption, if_pos rfl]
      exact done_charted none
    exact Charted.ofFirst rfl later
  | some present =>
    refine Charted.ofFirst rfl ?_
    rw [Schema.decode, after_decodeOption, if_neg (by decide), if_pos rfl]
    exact ((charted present rfl).within .optionValue).map some

mutual

/-- The encoding of a value is cut off at the parts that its layout shows. -/
theorem Schema.charted : {α : Type} → (schema : Schema α) → (value : α) → schema.fits value →
    schema.decode.Charted (schema.encode value) (schema.spans value)
  | _, .word width, _, fits =>
    (Schema.word width).charted_of_bare ((take_bare width .endOfData).map _) fits
  | _, @Schema.compact width supported, _, fits =>
    (@Schema.compact width supported).charted_of_bare ((compact_bare width).map _) fits
  | _, .bool, _, fits => Schema.bool.charted_of_bare bool_bare fits
  | _, .array size, _, fits => (Schema.array size).charted_of_bare (array_bare size) fits
  | _, .bytes, _, fits =>
    Schema.bytes.charted_of_bare ((compact_bare 4).andThen fun count => take_bare count _) fits
  | _, .list item, values, fits => by
    refine list_charted fits ?_
    rw [Schema.fits, Bool.and_eq_true, List.all_eq_true] at fits
    exact fun value member => item.charted value (fits.2 value member)
  | _, .option inner, none, _ => option_charted nofun
  | _, .option inner, some value, fits => by
    refine option_charted ?_
    rintro _ ⟨⟩
    exact inner.charted value fits
  | _, .alias _ inner, value, fits => inner.charted value fits
  | _, .struct type body, value, fits => body.charted type value fits
  | _, .choice type cases, value, fits => by
    obtain ⟨tag, -, bytes, encoded, charted⟩ := cases.charted type value fits
    rw [Schema.encode, Schema.spans, encoded]
    refine Charted.ofFirst rfl ?_
    rw [after_decode_choice]
    exact charted
  | _, .via iso inner, value, fits => (inner.charted (iso.parts value) fits).map iso.make

/-- So is that of a body. -/
theorem Body.charted : {α : Type} → (body : Body α) → (owner : String) → (value : α) →
    body.fits value → (body.decode owner).Charted (body.encode value) (body.spans owner value)
  | _, .nothing, _, _, _ => done_charted ()
  | _, .payload inner, _, value, fits => (inner.charted value fits).within _
  | _, .record fields, owner, values, fits => fields.charted owner values fits

/-- So are those of named values. -/
theorem Fields.charted : {α : Type} → (fields : Fields α) → (owner : String) → (values : α) →
    fields.fits values →
    (fields.decode owner).Charted (fields.encode values) (fields.spans owner values)
  | _, .last _ only, _, value, fits => (only.charted value fits).within _
  | _, .field name first others, owner, (value, values), fits => by
    rw [Fields.fits, Bool.and_eq_true] at fits
    have front := (first.charted value fits.1).within (.named (owner ++ "::" ++ name))
    have later := (others.charted owner values fits.2).map fun values => (value, values)
    exact front.andThen (fun rest => within_eq_ok_iff.mpr (first.lawful value rest fits.1)) later

/-- A variant is cut off behind its tag as its body is. -/
theorem Variants.charted : {tags : List UInt8} → {α : Type} → (cases : Variants tags α) →
    (type : String) → (value : α) → cases.fits value →
    ∃ tag ∈ tags, ∃ bytes, cases.encode value = tag :: bytes ∧
      (cases.decode type tag).Charted bytes (cases.spans type value)
  | _, _, .none, _, value, _ => nomatch value
  | _, _, .variant own name body others _, type, .inl value, fits => by
    refine ⟨own, List.mem_cons_self, body.encode value, rfl, ?_⟩
    rw [Variants.decode, if_pos rfl]
    exact (body.charted (type ++ "::" ++ name) value fits).map Sum.inl
  | _, _, .variant own name body others fresh, type, .inr value, fits => by
    obtain ⟨tag, member, bytes, encoded, charted⟩ := others.charted type value fits
    refine ⟨tag, List.mem_cons_of_mem own member, bytes, encoded, ?_⟩
    -- The tag is not the one in front, for that one is fresh.
    have apart : tag ≠ own := by
      rintro rfl
      exact fresh member
    rw [Variants.decode, if_neg apart]
    exact charted.map Sum.inr

end

end EnclaveChain.Scale

namespace EnclaveChain

open Scale

/-- The spans of the parts of a call. -/
def RuntimeCall.spans (call : RuntimeCall) : List Span := schema.spans call

/-- A rerun of task 7 has four parts: the byte that tells the pallet, the call of the pallet, the
byte that tells that call, and its argument. -/
example : (RuntimeCall.task (.rerun 7)).spans =
    [⟨.variantByte "RuntimeCall", 0, [52]⟩,
      ⟨.named "RuntimeCall::WeteeTask.0", 1, [2, 7, 0, 0, 0, 0, 0, 0, 0]⟩,
      ⟨.variantByte "Call", 1, [2]⟩,
      ⟨.named "Call::Rerun::id", 2, [7, 0, 0, 0, 0, 0, 0, 0]⟩] := rfl

/-- A call that is cut off is refused where it was cut off. Whatever part of its encoding is kept,
the text at the root of the error says that data is missing, and the parts that the error names are
those around the first byte that is missing. They come in order, each inside those before it, and
the bytes of every part stand in the encoding where its span says. -/
theorem cut_calls_blame_cut_parts (call : RuntimeCall) (fits : RuntimeCall.schema.fits call)
    (kept : Nat) (cut : kept < call.encode.length) :
    (∃ cause : Cause,
      (cause.message = "Not enough data to fill buffer" ∨
        cause.message = "Not enough data to decode vector") ∧
      RuntimeCall.decode (call.encode.take kept) =
        .error ⟨(Span.around call.spans kept).map Span.part, cause⟩) ∧
    (Span.around call.spans kept).Pairwise Span.Encloses ∧
    ∀ span ∈ call.spans, span.bytes <+: call.encode.drop span.start := by
  have charted : RuntimeCall.decode.Charted call.encode call.spans :=
    RuntimeCall.schema.charted call fits
  refine ⟨?_, charted.nested kept, charted.stands⟩
  obtain ⟨cause, short, failed⟩ := charted.stops cut
  exact ⟨cause, cause.isShort_iff_message.mp short, failed⟩

/-- A registration that is cut off in the domain name of its first host names the host addresses,
the domain name and the option that holds it, but not the host, which is an item of a vector. -/
theorem cut_calls_blame_cut_parts_domain :
    let call : RuntimeCall := .worker (.register [0x6b] [⟨some 1, none, some [0x61, 0x62]⟩] 443 2)
    RuntimeCall.schema.fits call ∧ 14 < call.encode.length ∧
      ∃ cause : Cause,
        (cause.message = "Not enough data to fill buffer" ∨
          cause.message = "Not enough data to decode vector") ∧
        RuntimeCall.decode (call.encode.take 14) =
          .error ⟨[.named "RuntimeCall::WeteeWorker.0", .named "Call::ClusterRegister::ip",
            .named "Ip::domain", .optionValue], cause⟩ := by
  intro call
  have fits : RuntimeCall.schema.fits call := rfl
  have cut : 14 < call.encode.length := by decide
  exact ⟨fits, cut, (cut_calls_blame_cut_parts call fits 14 cut).1⟩

end EnclaveChain
