import EnclaveChain.Proofs.Scale.Exact

/-!
# Where the parts of a value stand

The encoding of a value is made of the encodings of its parts, which are made of those of theirs.
A span is one part with the bytes it takes and the number of bytes before it. The spans of a value
are a function of its layout alone: no decoder is asked for them. Two facts hold of the spans of
any value and are kept in `Span.Chart`: the bytes of a span stand in the encoding where the span
says, and the spans around one byte, taken in order, lie one inside the other. Both are shown here
for each way to put values together; `Schema.charted` puts these together for every layout.
-/
namespace EnclaveChain.Scale

/-- A part of a value and the place of its bytes in the encoding of the whole. -/
structure Span where
  /-- The part. -/
  part : Part
  /-- Number of bytes before it. -/
  start : Nat
  /-- The bytes it takes. -/
  bytes : Bytes
deriving DecidableEq, Repr

namespace Span

/-- Number of bytes up to the end of the part. -/
def stop (span : Span) : Nat := span.start + span.bytes.length

/-- Whether a byte of the whole is one of the part. -/
def covers (span : Span) (index : Nat) : Bool := span.start ≤ index && index < span.stop

/-- The same part behind so many more bytes. -/
def shift (count : Nat) (span : Span) : Span := { span with start := count + span.start }

/-- One part lies inside another. -/
def Encloses (outer inner : Span) : Prop := outer.start ≤ inner.start ∧ inner.stop ≤ outer.stop

/-- The parts around a byte. -/
def around (spans : List Span) (index : Nat) : List Span :=
  spans.filter fun span => span.covers index

/-- The spans of values one after the other, from their bytes and their spans. -/
def consecutive {α : Type} (encode : α → Bytes) (spans : α → List Span) : List α → List Span
  | [] => []
  | value :: values =>
    spans value ++ (consecutive encode spans values).map (shift (encode value).length)

end Span

/-! ### The spans of a layout -/

mutual

/-- The spans of the parts of a value that have a name or a byte of their own, each in front of
those inside it. The items of a vector have neither, but their parts have. -/
def Schema.spans : {α : Type} → Schema α → α → List Span
  | _, .word _, _ => []
  | _, .compact _, _ => []
  | _, .bool, _ => []
  | _, .array _, _ => []
  | _, .bytes, _ => []
  | _, .list item, values =>
    (Span.consecutive item.encode item.spans values).map
      (Span.shift (Compact.encode values.length).length)
  | _, .option _, none => [⟨.optionByte, 0, [0]⟩]
  | _, .option inner, some value =>
    ⟨.optionByte, 0, [1]⟩ ::
      (⟨.optionValue, 0, inner.encode value⟩ :: inner.spans value).map (Span.shift 1)
  | _, .alias _ inner, value => inner.spans value
  | _, .struct type body, value => body.spans type value
  | _, .choice type cases, value =>
    ⟨.variantByte type, 0, (cases.encode value).take 1⟩ ::
      (cases.spans type value).map (Span.shift 1)
  | _, .via iso inner, value => inner.spans (iso.parts value)

/-- The spans of a body, whose payload is part `0` of its owner. -/
def Body.spans : {α : Type} → Body α → String → α → List Span
  | _, .nothing, _, _ => []
  | _, .payload inner, owner, value =>
    ⟨.named (owner ++ ".0"), 0, inner.encode value⟩ :: inner.spans value
  | _, .record fields, owner, values => fields.spans owner values

/-- The spans of named values, each a part of its owner. -/
def Fields.spans : {α : Type} → Fields α → String → α → List Span
  | _, .last name only, owner, value =>
    ⟨.named (owner ++ "::" ++ name), 0, only.encode value⟩ :: only.spans value
  | _, .field name first others, owner, (value, values) =>
    (⟨.named (owner ++ "::" ++ name), 0, first.encode value⟩ :: first.spans value) ++
      (others.spans owner values).map (Span.shift (first.encode value).length)

/-- The spans of a variant, counted from behind its tag. -/
def Variants.spans : {tags : List UInt8} → {α : Type} → Variants tags α → String → α → List Span
  | _, _, .none, _, value => nomatch value
  | _, _, .variant _ name body _ _, type, .inl value => body.spans (type ++ "::" ++ name) value
  | _, _, .variant _ _ _ others _, type, .inr value => others.spans type value

end

namespace Span

/-! ### The parts around a byte -/

variable {spans later : List Span}

/-- A part covers the bytes from its start on that are before its end. -/
theorem covers_iff {span : Span} {index : Nat} :
    span.covers index ↔ span.start ≤ index ∧ index < span.stop := by
  rw [covers, Bool.and_eq_true, decide_eq_true_eq, decide_eq_true_eq]

/-- A move adds to the start. -/
@[simp]
theorem start_shift (count : Nat) (span : Span) : (span.shift count).start = count + span.start :=
  rfl

/-- A move adds to the end. -/
@[simp]
theorem stop_shift (count : Nat) (span : Span) : (span.shift count).stop = count + span.stop :=
  Nat.add_assoc _ _ _

/-- A part that is moved covers the bytes that moved with it. -/
theorem covers_shift (count index : Nat) (span : Span) :
    (span.shift count).covers index ↔ count ≤ index ∧ span.covers (index - count) := by
  rw [covers_iff, covers_iff, start_shift, stop_shift]
  omega

/-- The parts around a byte are found list by list. -/
theorem around_append (spans later : List Span) (index : Nat) :
    around (spans ++ later) index = around spans index ++ around later index :=
  List.filter_append _ _

/-- A part covers no byte before those it moved behind. -/
theorem around_shift_of_lt {count index : Nat} (before : index < count) :
    around (spans.map (shift count)) index = [] := by
  rw [around, List.filter_eq_nil_iff]
  intro moved member
  obtain ⟨span, -, rfl⟩ := List.mem_map.mp member
  rw [covers_shift]
  omega

/-- Further on, the parts around a byte are those around it before the move. -/
theorem around_shift_of_le {count index : Nat} (behind : count ≤ index) :
    around (spans.map (shift count)) index = (around spans (index - count)).map (shift count) := by
  rw [around, around, List.filter_map]
  congr 1
  apply List.filter_congr
  intro span _
  rw [Function.comp_apply, Bool.eq_iff_iff, covers_shift, and_iff_right behind]

/-- A move changes no part. -/
theorem map_part_shift (count : Nat) (spans : List Span) :
    (spans.map (shift count)).map Span.part = spans.map Span.part := by
  rw [List.map_map]
  rfl

/-! ### Charts -/

/-- Spans that describe a byte string. -/
structure Chart (spans : List Span) (bytes : Bytes) : Prop where
  /-- The bytes of a part stand at its place. -/
  stands : ∀ span ∈ spans, span.bytes <+: bytes.drop span.start
  /-- The parts around a byte come in order, each inside those before it. -/
  nested : ∀ index, (around spans index).Pairwise Encloses

/-- A byte string need not have parts. -/
theorem Chart.empty (bytes : Bytes) : Chart [] bytes where
  stands := by simp
  nested := by simp [around]

/-- A part with bytes ends with the whole or before. -/
theorem Chart.stop_le {bytes : Bytes} (chart : Chart spans bytes) {span : Span}
    (member : span ∈ spans) {index : Nat} (covered : span.covers index) :
    span.stop ≤ bytes.length := by
  have fits := (chart.stands span member).length_le
  rw [List.length_drop] at fits
  rw [covers_iff, stop] at covered
  rw [stop]
  omega

/-- No part is found beyond the end. -/
theorem Chart.around_of_le {bytes : Bytes} (chart : Chart spans bytes) {index : Nat}
    (beyond : bytes.length ≤ index) : around spans index = [] := by
  rw [around, List.filter_eq_nil_iff]
  intro span member covered
  have ends := chart.stop_le member covered
  rw [covers_iff] at covered
  omega

/-- In two byte strings one after the other, a byte of the first has parts there. -/
theorem around_append_shift_of_lt {count index : Nat} (inside : index < count) :
    around (spans ++ later.map (shift count)) index = around spans index := by
  rw [around_append, around_shift_of_lt inside, List.append_nil]

/-- And a byte of the second has parts there. -/
theorem Chart.around_append_shift_of_le {front : Bytes} (chart : Chart spans front) {index : Nat}
    (behind : front.length ≤ index) :
    around (spans ++ later.map (shift front.length)) index =
      (around later (index - front.length)).map (shift front.length) := by
  rw [around_append, chart.around_of_le behind, around_shift_of_le behind, List.nil_append]

/-- Moving two parts together keeps one inside the other. -/
theorem Encloses.shift {outer inner : Span} (inside : outer.Encloses inner) (count : Nat) :
    (outer.shift count).Encloses (inner.shift count) := by
  obtain ⟨starts, ends⟩ := inside
  exact ⟨Nat.add_le_add_left starts count, by simpa using ends⟩

/-- Two byte strings one after the other have the parts of both. -/
theorem Chart.append {front back : Bytes} (chart : Chart spans front)
    (second : Chart later back) :
    Chart (spans ++ later.map (shift front.length)) (front ++ back) where
  stands := by
    intro span member
    rcases List.mem_append.mp member with first | moved
    · rw [List.drop_append]
      exact (chart.stands span first).trans (List.prefix_append _ _)
    · obtain ⟨original, found, rfl⟩ := List.mem_map.mp moved
      have place : (front ++ back).drop (front.length + original.start) =
          back.drop original.start := List.drop_length_add_append _
      exact place ▸ second.stands original found
  nested := by
    intro index
    by_cases inside : index < front.length
    · rw [around_append_shift_of_lt inside]
      exact chart.nested index
    · rw [chart.around_append_shift_of_le (Nat.le_of_not_lt inside)]
      exact (second.nested _).map _ fun _ _ encloses => encloses.shift front.length

/-- A byte of the whole is a byte of a part that takes all of it. -/
theorem around_whole (part : Part) {bytes : Bytes} {index : Nat} (inside : index < bytes.length) :
    around (⟨part, 0, bytes⟩ :: spans) index = ⟨part, 0, bytes⟩ :: around spans index := by
  apply List.filter_cons_of_pos
  simp [covers, stop, inside]

/-- A part that takes all of the bytes is around all others. -/
theorem Chart.whole {bytes : Bytes} (chart : Chart spans bytes) (part : Part) :
    Chart (⟨part, 0, bytes⟩ :: spans) bytes where
  stands := by
    intro span member
    rcases List.mem_cons.mp member with rfl | inner
    · exact List.prefix_rfl
    · exact chart.stands span inner
  nested := by
    intro index
    by_cases inside : index < bytes.length
    · rw [around_whole part inside, List.pairwise_cons]
      refine ⟨?_, chart.nested index⟩
      intro span found
      obtain ⟨member, covered⟩ := List.mem_filter.mp found
      have ends := chart.stop_le member covered
      exact ⟨Nat.zero_le _, by simpa [stop] using ends⟩
    · have outside : around (⟨part, 0, bytes⟩ :: spans) index = around spans index := by
        apply List.filter_cons_of_neg
        simp [covers, stop, inside]
      rw [outside]
      exact chart.nested index

end Span

end EnclaveChain.Scale
