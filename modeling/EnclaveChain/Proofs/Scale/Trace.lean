import EnclaveChain.Proofs.Scale.ItemCount

/-!
# Decoding with a record of vectors

The prefix of a vector may declare far more items than there are bytes, and the decoder of the
vector believes it until an item is missing. To see how many items it starts to read, a layout is
read with a record of what the vector decoders in it do (`Schema.trace`). The record changes nothing
about what is read (`Schema.decoder_trace`), and it misses no item: of a value that is read, the
attempts in the record are the items (`Schema.counts_trace`). Of a vector that is refused, they are
the items before the one that fails, and this one (`Schema.starts_trace`).
-/
namespace EnclaveChain.Scale

/-- What one vector decoder did. -/
structure VectorRun where
  /-- The length that the prefix declares. -/
  declared : Nat
  /-- The bytes of the input behind the prefix. -/
  left : Bytes
  /-- Number of items that it started to read. -/
  attempts : Nat
deriving DecidableEq, Repr

/-- What a decoder came to on an input, and what the vector decoders in it did. -/
structure Trace (α : Type) where
  /-- The vector decoders that got past their prefix, each in front of those inside its items. -/
  runs : List VectorRun
  /-- The value and the bytes after it, or the failure. -/
  outcome : Except DecodeError (α × Bytes)

/-- A decoder with a record of the vector decoders in it. -/
abbrev Tracer (α : Type) := Bytes → Trace α

namespace Tracer

variable {α β : Type}

/-- The decoder without the record. -/
def decoder (tracer : Tracer α) : Decoder α := fun bytes => (tracer bytes).outcome

/-- A decoder that reads no vector. -/
def quiet (decoder : Decoder α) : Tracer α := fun bytes => ⟨[], decoder bytes⟩

/-- Reads a value and changes it. -/
def map (change : α → β) (tracer : Tracer α) : Tracer β := fun bytes =>
  ⟨(tracer bytes).runs, tracer.decoder.map change bytes⟩

/-- Reads a value as a part of another one. -/
def within (part : Part) (tracer : Tracer α) : Tracer α := fun bytes =>
  ⟨(tracer bytes).runs, tracer.decoder.within part bytes⟩

/-- Reads a value and then one that may depend on it. -/
def andThen (tracer : Tracer α) (next : α → Tracer β) : Tracer β := fun bytes =>
  match (tracer bytes).outcome with
  | .error error => ⟨(tracer bytes).runs, .error error⟩
  | .ok (value, rest) =>
    ⟨(tracer bytes).runs ++ (next value rest).runs, (next value rest).outcome⟩

/-- Reads so many values, one after the other, and counts those that it starts to read. -/
def times (item : Tracer α) : Nat → Bytes → Nat × Trace (List α)
  | 0, bytes => (0, ⟨[], .ok ([], bytes)⟩)
  | count + 1, bytes =>
    match (item bytes).outcome with
    | .error error => (1, ⟨(item bytes).runs, .error error⟩)
    | .ok (value, rest) =>
      let others := times item count rest
      (others.1 + 1,
        ⟨(item bytes).runs ++ others.2.runs,
          match others.2.outcome with
          | .error error => .error error
          | .ok (values, rest) => .ok (value :: values, rest)⟩)

/-- Reads a vector: its length and its items. -/
def vector (item : Tracer α) : Tracer (List α) :=
  (quiet (Compact.decode 4)).andThen fun declared left =>
    let items := item.times declared left
    ⟨⟨declared, left, items.1⟩ :: items.2.runs, items.2.outcome⟩

/-- Number of bytes that were taken. -/
def taken : Except DecodeError (Bytes × Bytes) → Nat
  | .ok (front, _) => front.length
  | .error _ => 0

/-- Reads a byte vector: its length and, if there are so many, its bytes in one piece. -/
def bytes : Tracer Bytes :=
  (quiet (Compact.decode 4)).andThen fun declared left =>
    -- Where there are fewer bytes than declared, none of them is taken.
    let outcome := Decoder.take declared .endOfVector left
    ⟨[⟨declared, left, taken outcome⟩], outcome⟩

/-- Reads an option. -/
def option (value : Tracer α) : Tracer (Option α) := fun bytes =>
  match bytes with
  | [] => quiet (decodeOption value.decoder) []
  | byte :: rest =>
    ⟨if byte = 1 then (value rest).runs else [], decodeOption value.decoder (byte :: rest)⟩

end Tracer

open Tracer

mutual

/-- Reads a value with a record of the vector decoders in it. -/
def Schema.trace : {α : Type} → Schema α → Tracer α
  | _, .bytes => Tracer.bytes
  | _, .list item => vector item.trace
  | _, .option value => Tracer.option value.trace
  | _, .alias _ inner => inner.trace
  | _, .struct type body => body.trace type
  | _, .choice type cases => fun bytes =>
    match bytes with
    | [] => ⟨[], .error ⟨[.variantByte type], .endOfData⟩⟩
    | tag :: rest => cases.trace type tag rest
  | _, .via iso inner => inner.trace.map iso.make
  | _, schema => quiet schema.decode

/-- Reads a body with a record. -/
def Body.trace : {α : Type} → Body α → String → Tracer α
  | _, .nothing, _ => fun bytes => ⟨[], .ok ((), bytes)⟩
  | _, .payload inner, owner => inner.trace.within (.named (owner ++ ".0"))
  | _, .record fields, owner => fields.trace owner

/-- Reads named values with a record. -/
def Fields.trace : {α : Type} → Fields α → String → Tracer α
  | _, .last name only, owner => only.trace.within (.named (owner ++ "::" ++ name))
  | _, .field name first others, owner =>
    (first.trace.within (.named (owner ++ "::" ++ name))).andThen fun value =>
      (others.trace owner).map fun values => (value, values)

/-- Reads the variant that has the tag with a record. -/
def Variants.trace :
    {tags : List UInt8} → {α : Type} → Variants tags α → String → UInt8 → Tracer α
  | _, _, .none, type, _ => quiet (Decoder.fail (.unknownVariant type))
  | _, _, .variant own name body others _, type, tag =>
    if tag = own then (body.trace (type ++ "::" ++ name)).map .inl
    else (others.trace type tag).map .inr

end

/-! ### A record changes nothing -/

namespace Tracer

variable {α β : Type}

/-- Two values are read as without a record. -/
theorem decoder_andThen (tracer : Tracer α) (next : α → Tracer β) :
    (tracer.andThen next).decoder = tracer.decoder.andThen fun value => (next value).decoder := by
  funext bytes
  rw [decoder, andThen, Decoder.andThen, decoder]
  cases (tracer bytes).outcome <;> rfl

/-- A number of values is read as without a record. -/
theorem outcome_times (item : Tracer α) (count : Nat) (bytes : Bytes) :
    (item.times count bytes).2.outcome = item.decoder.times count bytes := by
  induction count generalizing bytes with
  | zero => rfl
  | succ count ih =>
    rw [times, Decoder.times, decoder]
    cases (item bytes).outcome with
    | error error => rfl
    | ok found =>
      cases others : item.decoder.times count found.2 <;> simp only [ih, others]

/-- A vector is read as without a record. -/
theorem decoder_vector (item : Tracer α) :
    (vector item).decoder = (Compact.decode 4).andThen fun count => item.decoder.times count := by
  rw [vector, decoder_andThen]
  congr 1
  funext declared left
  exact item.outcome_times declared left

/-- A byte vector is read as without a record. -/
theorem decoder_bytes : Tracer.bytes.decoder = Schema.bytes.decode := by
  rw [Tracer.bytes, decoder_andThen]
  rfl

/-- An option is read as without a record. -/
theorem decoder_option (value : Tracer α) :
    (option value).decoder = decodeOption value.decoder := by
  funext bytes
  cases bytes <;> rfl

end Tracer

mutual

/-- A value is read as without a record. -/
theorem Schema.decoder_trace : {α : Type} → (schema : Schema α) →
    schema.trace.decoder = schema.decode
  | _, .word _ | _, .compact _ | _, .bool | _, .array _ => rfl
  | _, .bytes => decoder_bytes
  | _, .list item => by
    rw [Schema.trace, decoder_vector, item.decoder_trace, Schema.decode]
  | _, .option value => by
    rw [Schema.trace, decoder_option, value.decoder_trace, Schema.decode]
  | _, .alias _ inner => inner.decoder_trace
  | _, .struct type body => body.decoder_trace type
  | _, .choice type cases => by
    funext bytes
    cases bytes with
    | nil => rfl
    | cons tag rest => exact congrFun (cases.decoder_trace type tag) rest
  | _, .via iso inner => congrArg (Decoder.map iso.make) inner.decoder_trace

/-- A body is read as without a record. -/
theorem Body.decoder_trace : {α : Type} → (body : Body α) → (owner : String) →
    (body.trace owner).decoder = body.decode owner
  | _, .nothing, _ => rfl
  | _, .payload inner, _ => congrArg (Decoder.within _) inner.decoder_trace
  | _, .record fields, owner => fields.decoder_trace owner

/-- Named values are read as without a record. -/
theorem Fields.decoder_trace : {α : Type} → (fields : Fields α) → (owner : String) →
    (fields.trace owner).decoder = fields.decode owner
  | _, .last _ only, _ => congrArg (Decoder.within _) only.decoder_trace
  | _, .field name first others, owner => by
    have front : (first.trace.within (.named (owner ++ "::" ++ name))).decoder =
        first.decode.within (.named (owner ++ "::" ++ name)) :=
      congrArg (Decoder.within _) first.decoder_trace
    have back : (others.trace owner).decoder = others.decode owner := others.decoder_trace owner
    rw [Fields.trace, decoder_andThen, front, Fields.decode, ← back]
    rfl

/-- A variant is read as without a record. -/
theorem Variants.decoder_trace : {tags : List UInt8} → {α : Type} → (cases : Variants tags α) →
    (type : String) → (tag : UInt8) → (cases.trace type tag).decoder = cases.decode type tag
  | _, _, .none, _, _ => rfl
  | _, _, .variant own name body others _, type, tag => by
    rw [Variants.trace, Variants.decode]
    split
    · exact congrArg (Decoder.map Sum.inl) (body.decoder_trace (type ++ "::" ++ name))
    · exact congrArg (Decoder.map Sum.inr) (others.decoder_trace type tag)

end

/-! ### A record misses no item -/

/-- Number of items that vector decoders started to read together. -/
def attempts (runs : List VectorRun) : Nat := (runs.map VectorRun.attempts).sum

/-- The attempts of two records are added. -/
@[simp]
theorem attempts_append (runs later : List VectorRun) :
    attempts (runs ++ later) = attempts runs + attempts later := by
  rw [attempts, List.map_append, List.sum_append, attempts, attempts]

/-- The attempts of a vector are added to those inside it. -/
@[simp]
theorem attempts_cons (run : VectorRun) (runs : List VectorRun) :
    attempts (run :: runs) = run.attempts + attempts runs := List.sum_cons

namespace Tracer

variable {α β : Type}

/-- Where a value is read, there were as many attempts as it has items. -/
def Counts (tracer : Tracer α) (items : α → Nat) : Prop :=
  ∀ ⦃bytes value rest⦄, tracer.decoder bytes = .ok (value, rest) →
    attempts (tracer bytes).runs = items value

/-- Without vectors there are no items. -/
theorem quiet_counts (decoder : Decoder α) : (quiet decoder).Counts fun _ => 0 := by
  intro bytes value rest read
  rfl

/-- A changed value has as many items as the value. -/
theorem Counts.map {tracer : Tracer α} {items : α → Nat} {changed : β → Nat} {change : α → β}
    (counts : tracer.Counts items) (same : ∀ value, changed (change value) = items value) :
    (tracer.map change).Counts changed := by
  intro bytes value rest read
  obtain ⟨original, found, rfl⟩ := Decoder.map_eq_ok_iff.mp read
  rw [same]
  exact counts found

/-- A part has the items that it has without its name. -/
theorem Counts.within {tracer : Tracer α} {items : α → Nat} (counts : tracer.Counts items)
    (part : Part) : (tracer.within part).Counts items := by
  intro bytes value rest read
  exact counts (Decoder.within_eq_ok_iff.mp read)

/-- The record of two values is that of the first and then that of the second. -/
theorem runs_andThen {tracer : Tracer α} {next : α → Tracer β} {bytes middle : Bytes} {first : α}
    (read : tracer.decoder bytes = .ok (first, middle)) :
    (tracer.andThen next bytes).runs = (tracer bytes).runs ++ (next first middle).runs := by
  have outcome : (tracer bytes).outcome = .ok (first, middle) := read
  rw [andThen, outcome]

/-- Where the first value has no vectors, the record is that of the second. -/
theorem runs_quiet_andThen {decoder : Decoder α} {next : α → Tracer β} {bytes middle : Bytes}
    {first : α} (read : decoder bytes = .ok (first, middle)) :
    ((quiet decoder).andThen next bytes).runs = (next first middle).runs := by
  have outcome : (quiet decoder bytes).outcome = .ok (first, middle) := read
  rw [runs_andThen outcome]
  rfl

/-- Two values have the items of both. -/
theorem Counts.pair {front : Tracer α} {back : Tracer β} {items : α → Nat} {more : β → Nat}
    (counts : front.Counts items) (later : back.Counts more) :
    (front.andThen fun value => back.map fun values => (value, values)).Counts
      fun pair => items pair.1 + more pair.2 := by
  intro bytes value rest read
  rw [decoder_andThen] at read
  obtain ⟨first, middle, found, continued⟩ := Decoder.andThen_eq_ok_iff.mp read
  obtain ⟨second, remaining, rfl⟩ := Decoder.map_eq_ok_iff.mp continued
  have others : attempts (back middle).runs = more second := later remaining
  rw [runs_andThen found, attempts_append, counts found]
  exact congrArg (items first + ·) others

/-- A number of values is that of the attempts, and their items are counted too. -/
theorem Counts.times {item : Tracer α} {items : α → Nat} (counts : item.Counts items)
    {count : Nat} {bytes rest : Bytes} {values : List α}
    (read : item.decoder.times count bytes = .ok (values, rest)) :
    (item.times count bytes).1 = values.length ∧
      attempts (item.times count bytes).2.runs = (values.map items).sum := by
  induction count generalizing bytes values with
  | zero =>
    cases read
    exact ⟨rfl, rfl⟩
  | succ count ih =>
    rw [Decoder.times_succ] at read
    obtain ⟨first, middle, found, continued⟩ := Decoder.andThen_eq_ok_iff.mp read
    obtain ⟨others, remaining, rfl⟩ := Decoder.map_eq_ok_iff.mp continued
    obtain ⟨number, inside⟩ := ih remaining
    have outcome : (item bytes).outcome = .ok (first, middle) := found
    simp only [Tracer.times, outcome, attempts_append, counts found, number, inside,
      List.length_cons, List.map_cons, List.sum_cons, and_self]

/-- A vector has its items and those inside them. -/
theorem Counts.vector {item : Tracer α} {items : α → Nat} (counts : item.Counts items) :
    (vector item).Counts fun values => values.length + (values.map items).sum := by
  intro bytes values rest read
  rw [decoder_vector] at read
  obtain ⟨declared, left, counted, remaining⟩ := Decoder.andThen_eq_ok_iff.mp read
  obtain ⟨number, inside⟩ := counts.times remaining
  rw [Tracer.vector, runs_quiet_andThen counted, attempts_cons, number, inside]

/-- A byte vector has its bytes. -/
theorem bytes_counts : Tracer.bytes.Counts List.length := by
  intro bytes value rest read
  rw [decoder_bytes, Schema.decode] at read
  obtain ⟨declared, left, counted, outcome⟩ := Decoder.andThen_eq_ok_iff.mp read
  rw [Tracer.bytes, runs_quiet_andThen counted, outcome]
  simp [attempts, taken]

/-- An option has the items of its value. -/
theorem Counts.option {value : Tracer α} {items : α → Nat} (counts : value.Counts items) :
    (option value).Counts fun found => (found.map items).getD 0 := by
  intro bytes found rest read
  rw [decoder_option] at read
  cases bytes with
  | nil => cases read
  | cons byte tail =>
    rw [decodeOption] at read
    -- The first byte tells whether there is a value to look for vectors in.
    by_cases zero : byte = 0
    · rw [if_pos zero] at read
      cases read
      simp [Tracer.option, zero, attempts]
    · by_cases one : byte = 1
      · rw [if_neg zero, if_pos one] at read
        obtain ⟨inside, held, rfl⟩ := Decoder.map_eq_ok_iff.mp read
        have same : attempts (value tail).runs = items inside :=
          counts (Decoder.within_eq_ok_iff.mp held)
        simpa [Tracer.option, one] using same
      · rw [if_neg zero, if_neg one] at read
        cases read

end Tracer

mutual

/-- Of a value that is read, the attempts are the items. -/
theorem Schema.counts_trace : {α : Type} → (schema : Schema α) →
    schema.trace.Counts schema.itemCount
  | _, .word _ | _, .compact _ | _, .bool | _, .array _ => quiet_counts _
  | _, .bytes => bytes_counts
  | _, .list item => item.counts_trace.vector
  | _, .option value => by
    intro bytes found rest read
    rw [Schema.trace, value.counts_trace.option read]
    cases found <;> rfl
  | _, .alias _ inner => inner.counts_trace
  | _, .struct type body => body.counts_trace type
  | _, .choice type cases => by
    intro bytes value rest read
    cases bytes with
    | nil => cases read
    | cons tag tail => exact cases.counts_trace type tag read
  | _, .via iso inner => by
    apply inner.counts_trace.map
    intro value
    rw [Schema.itemCount, iso.parts_make]

/-- So they are of a body. -/
theorem Body.counts_trace : {α : Type} → (body : Body α) → (owner : String) →
    (body.trace owner).Counts body.itemCount
  | _, .nothing, _ => quiet_counts _
  | _, .payload inner, _ => inner.counts_trace.within _
  | _, .record fields, owner => fields.counts_trace owner

/-- So they are of named values. -/
theorem Fields.counts_trace : {α : Type} → (fields : Fields α) → (owner : String) →
    (fields.trace owner).Counts fields.itemCount
  | _, .last _ only, _ => only.counts_trace.within _
  | _, .field _ first others, owner =>
    (first.counts_trace.within _).pair (others.counts_trace owner)

/-- So they are of a variant. -/
theorem Variants.counts_trace : {tags : List UInt8} → {α : Type} → (cases : Variants tags α) →
    (type : String) → (tag : UInt8) → (cases.trace type tag).Counts cases.itemCount
  | _, _, .none, _, _ => by
    intro bytes value
    cases value
  | _, _, .variant own name body others _, type, tag => by
    rw [Variants.trace]
    split
    · exact (body.counts_trace (type ++ "::" ++ name)).map fun _ => rfl
    · exact (others.counts_trace type tag).map fun _ => rfl

end

/-! ### A record stops where the decoder does -/

namespace Decoder

variable {α : Type}

/-- How many values are started when so many are to be read: all of them, or those that are read
and the one that fails. -/
inductive Starts (item : Decoder α) (count : Nat) (bytes : Bytes) : Nat → Prop where
  /-- All of them are read. -/
  | all (values : List α) {rest : Bytes} (read : item.times count bytes = .ok (values, rest)) :
      Starts item count bytes count
  /-- Fewer are read, and the next one fails. -/
  | failed (values : List α) {middle : Bytes} {error : DecodeError} (fewer : values.length < count)
      (read : item.times values.length bytes = .ok (values, middle))
      (failure : item middle = .error error) :
      Starts item count bytes (values.length + 1)

variable {item : Decoder α} {count attempts : Nat} {bytes middle rest : Bytes} {first : α}

/-- A value that is read in front of others is the first of them. -/
theorem times_succ_of_ok {values : List α} (read : item bytes = .ok (first, middle))
    (others : item.times count middle = .ok (values, rest)) :
    item.times (count + 1) bytes = .ok (first :: values, rest) := by
  rw [times_succ, andThen_eq_ok_iff]
  exact ⟨first, middle, read, map_eq_ok_iff.mpr ⟨values, others, rfl⟩⟩

/-- A value that is read in front of others is started, too. -/
theorem Starts.cons (read : item bytes = .ok (first, middle))
    (others : item.Starts count middle attempts) :
    item.Starts (count + 1) bytes (attempts + 1) := by
  cases others with
  | all values remaining => exact .all (first :: values) (times_succ_of_ok read remaining)
  | failed values fewer remaining failure =>
    exact .failed (first :: values) (Nat.succ_lt_succ fewer) (times_succ_of_ok read remaining)
      failure

end Decoder

/-- The attempts that are counted are the values that the decoder starts to read. -/
theorem Tracer.starts_times {α : Type} (item : Tracer α) (count : Nat) (bytes : Bytes) :
    item.decoder.Starts count bytes (item.times count bytes).1 := by
  induction count generalizing bytes with
  | zero => exact .all [] rfl
  | succ count ih =>
    rw [times]
    cases outcome : (item bytes).outcome with
    | error error => exact .failed [] (Nat.succ_pos count) rfl outcome
    | ok found => exact (ih found.2).cons outcome

/-- The record of a list, read or refused, begins with its own vector, and the attempts there are
the items that the decoder starts to read. -/
theorem Schema.starts_trace {α : Type} (item : Schema α) {bytes left : Bytes} {declared : Nat}
    (counted : Compact.decode 4 bytes = .ok (declared, left)) :
    ∃ attempts inside,
      ((Schema.list item).trace bytes).runs = ⟨declared, left, attempts⟩ :: inside ∧
        item.decode.Starts declared left attempts := by
  have starts := item.trace.starts_times declared left
  rw [item.decoder_trace] at starts
  exact ⟨_, _, runs_quiet_andThen counted, starts⟩

end EnclaveChain.Scale
