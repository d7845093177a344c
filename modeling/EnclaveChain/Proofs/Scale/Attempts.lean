import EnclaveChain.Call.Runtime
import EnclaveChain.Proofs.Scale.Trace
import EnclaveChain.Storage.Item

/-!
# How many items are attempted

A vector decoder that is told to read more items than there are bytes does not get far. Where every
item takes a byte, an item has been read for each byte that is left when the next one fails
(`Decoder.Starts.le`), so the length that a prefix declares does not matter. This holds of every
vector decoder at any depth (`Schema.trace_frugal`), and together with the number of items in what
is read it bounds a decode by its input (`decoding_never_amplifies`).
-/
namespace EnclaveChain.Scale

open Tracer

/-! ### Decoders that read something -/

namespace Decoder

variable {α : Type}

/-- What a decoder does not read is the end of its input. -/
def Leaves (decoder : Decoder α) : Prop :=
  ∀ ⦃bytes value rest⦄, decoder bytes = .ok (value, rest) → rest <:+ bytes

/-- A decoder reads a byte at least. -/
def Shortens (decoder : Decoder α) : Prop :=
  ∀ ⦃bytes value rest⦄, decoder bytes = .ok (value, rest) → rest.length < bytes.length

/-- Values that take a byte each are no more than the bytes that they take. -/
theorem Shortens.add_length_le_of_times {decoder : Decoder α} (shortens : decoder.Shortens)
    {count : Nat} {bytes rest : Bytes} {values : List α}
    (read : decoder.times count bytes = .ok (values, rest)) :
    count + rest.length ≤ bytes.length := by
  -- The induction is on the count; what carries it is that each item leaves fewer bytes.
  induction count generalizing bytes values with
  | zero =>
    cases read
    exact Nat.le_of_eq (Nat.zero_add rest.length)
  | succ count ih =>
    rw [times_succ] at read
    obtain ⟨first, middle, found, continued⟩ := andThen_eq_ok_iff.mp read
    obtain ⟨others, remaining, rfl⟩ := map_eq_ok_iff.mp continued
    have fewer : middle.length < bytes.length := shortens found
    have paid := ih remaining
    omega

/-- Of values that take a byte each, one more is started than there are bytes at most: the first
one that finds no byte fails. -/
theorem Starts.le {decoder : Decoder α} {count attempts : Nat} {bytes : Bytes}
    (starts : decoder.Starts count bytes attempts) (shortens : decoder.Shortens) :
    attempts ≤ min count (bytes.length + 1) := by
  cases starts with
  | all values read =>
    have paid := shortens.add_length_le_of_times read
    omega
  | failed values fewer read failure =>
    have paid := shortens.add_length_le_of_times read
    omega

/-- A decoder of encodings leaves the bytes after them. -/
theorem Reads.leaves {decoder : Decoder α} {fits : α → Prop} {encode : α → Bytes}
    (reads : decoder.Reads fits encode) : decoder.Leaves := by
  intro bytes value rest decoded
  obtain ⟨-, rfl⟩ := (reads bytes value rest).mp decoded
  exact List.suffix_append _ _

end Decoder

/-- A layout that spares a byte is read from a byte at least. -/
theorem Schema.decode_shortens {α : Type} {schema : Schema α} (pays : schema.paysForItems)
    (spares : 0 < schema.spare) : schema.decode.Shortens := by
  intro bytes value rest decoded
  have bound := itemCount_le_of_decode pays decoded
  omega

/-! ### Few items are attempted -/

/-- A vector decoder does not start to read many items, whatever length is declared. -/
structure VectorRun.Frugal (run : VectorRun) (bytes : Bytes) : Prop where
  /-- The bytes that are left are the end of the input. -/
  left_suffix : run.left <:+ bytes
  /-- The declared length is one that a prefix can hold. -/
  declared_lt : run.declared < 2 ^ 32
  /-- There are no more attempts than declared items, and one more than bytes at most. -/
  attempts_le : run.attempts ≤ min run.declared (run.left.length + 1)

/-- More bytes in front of the input change nothing. -/
theorem VectorRun.Frugal.of_suffix {run : VectorRun} {rest bytes : Bytes} (frugal : run.Frugal rest)
    (behind : rest <:+ bytes) : run.Frugal bytes where
  left_suffix := frugal.left_suffix.trans behind
  declared_lt := frugal.declared_lt
  attempts_le := frugal.attempts_le

namespace Tracer

variable {α β : Type}

/-- All vector decoders are frugal on every input. -/
def Frugal (tracer : Tracer α) : Prop := ∀ bytes, ∀ run ∈ (tracer bytes).runs, run.Frugal bytes

/-- Without vector decoders there is nothing to show. -/
theorem quiet_frugal (decoder : Decoder α) : (quiet decoder).Frugal := by
  intro bytes run member
  cases member

/-- A changed value has the vector decoders of the value. -/
theorem Frugal.map {tracer : Tracer α} (frugal : tracer.Frugal) (change : α → β) :
    (tracer.map change).Frugal := fun bytes run member => frugal bytes run member

/-- A part has the vector decoders that it has without its name. -/
theorem Frugal.within {tracer : Tracer α} (frugal : tracer.Frugal) (part : Part) :
    (tracer.within part).Frugal := fun bytes run member => frugal bytes run member

/-- The vector decoders of a second value work on the bytes behind the first. -/
theorem Frugal.andThen {tracer : Tracer α} {next : α → Tracer β} (frugal : tracer.Frugal)
    (leaves : tracer.decoder.Leaves) (later : ∀ value, (next value).Frugal) :
    (tracer.andThen next).Frugal := by
  intro bytes run member
  rw [Tracer.andThen] at member
  split at member
  · exact frugal bytes run member
  · rename_i value rest read
    rcases List.mem_append.mp member with first | second
    · exact frugal bytes run first
    · exact (later value rest run second).of_suffix (leaves read)

/-- The vector decoders inside items are frugal. -/
theorem Frugal.times {item : Tracer α} (frugal : item.Frugal) (leaves : item.decoder.Leaves)
    (count : Nat) (bytes : Bytes) :
    ∀ run ∈ (item.times count bytes).2.runs, run.Frugal bytes := by
  induction count generalizing bytes with
  | zero =>
    intro run member
    cases member
  | succ count ih =>
    intro run member
    rw [Tracer.times] at member
    split at member
    · exact frugal bytes run member
    · rename_i value rest read
      rcases List.mem_append.mp member with first | other
      · exact frugal bytes run first
      · exact (ih rest run other).of_suffix (leaves read)

/-- A vector decoder is frugal if its items take bytes, and so are those inside it. -/
theorem Frugal.vector {item : Tracer α} (frugal : item.Frugal) (leaves : item.decoder.Leaves)
    (shortens : item.decoder.Shortens) : (vector item).Frugal := by
  intro bytes run member
  rw [Tracer.vector, Tracer.andThen] at member
  split at member
  · cases member
  · rename_i declared left read
    obtain ⟨small, -⟩ := (length_reads _ _ _).mp read
    have behind : left <:+ bytes := length_reads.leaves read
    rcases List.mem_cons.mp member with rfl | inside
    · exact ⟨behind, small, (item.starts_times declared left).le shortens⟩
    · exact (frugal.times leaves declared left run inside).of_suffix behind

/-- No more bytes are taken than are asked for, and no more than there are. -/
theorem taken_le (count : Nat) (bytes : Bytes) :
    taken (Decoder.take count .endOfVector bytes) ≤ min count bytes.length := by
  cases outcome : Decoder.take count .endOfVector bytes with
  | error error => exact Nat.zero_le _
  | ok found =>
    obtain ⟨counted, rfl⟩ := Decoder.take_eq_ok_iff.mp outcome
    rw [taken, List.length_append, counted]
    omega

/-- A byte vector has no vector inside and takes the bytes that it finds. -/
theorem bytes_frugal : Tracer.bytes.Frugal := by
  intro bytes run member
  rw [Tracer.bytes, Tracer.andThen] at member
  split at member
  · cases member
  · rename_i declared left read
    obtain ⟨small, -⟩ := (length_reads _ _ _).mp read
    obtain rfl := List.mem_singleton.mp member
    have few := taken_le declared left
    refine ⟨length_reads.leaves read, small, ?_⟩
    dsimp only
    omega

/-- An option has the vector decoders of its value. -/
theorem Frugal.option {value : Tracer α} (frugal : value.Frugal) : (option value).Frugal := by
  intro bytes run member
  cases bytes with
  | nil => cases member
  | cons byte rest =>
    rw [Tracer.option] at member
    split at member
    · exact (frugal rest run member).of_suffix (List.suffix_cons byte rest)
    · cases member

end Tracer

mutual

/-- Where the items of all vectors take bytes, all vector decoders are frugal. -/
theorem Schema.trace_frugal : {α : Type} → (schema : Schema α) → schema.paysForItems →
    schema.trace.Frugal
  | _, .word _, _ | _, .compact _, _ | _, .bool, _ | _, .array _, _ => quiet_frugal _
  | _, .bytes, _ => bytes_frugal
  | _, .list item, pays => by
    rw [Schema.paysForItems, Bool.and_eq_true, decide_eq_true_eq] at pays
    have same : item.trace.decoder = item.decode := item.decoder_trace
    exact (item.trace_frugal pays.2).vector (same ▸ item.decode_reads.leaves)
      (same ▸ Schema.decode_shortens pays.2 pays.1)
  | _, .option value, pays => (value.trace_frugal pays).option
  | _, .alias _ inner, pays => inner.trace_frugal pays
  | _, .struct type body, pays => body.trace_frugal type pays
  | _, .choice type cases, pays => by
    intro bytes run member
    cases bytes with
    | nil => cases member
    | cons tag rest =>
      exact (cases.trace_frugal type tag pays rest run member).of_suffix (List.suffix_cons tag rest)
  | _, .via iso inner, pays => (inner.trace_frugal pays).map iso.make

/-- So they are in a body. -/
theorem Body.trace_frugal : {α : Type} → (body : Body α) → (owner : String) →
    body.paysForItems → (body.trace owner).Frugal
  | _, .nothing, _, _ => quiet_frugal _
  | _, .payload inner, _, pays => (inner.trace_frugal pays).within _
  | _, .record fields, owner, pays => fields.trace_frugal owner pays

/-- So they are in named values. -/
theorem Fields.trace_frugal : {α : Type} → (fields : Fields α) → (owner : String) →
    fields.paysForItems → (fields.trace owner).Frugal
  | _, .last _ only, _, pays => (only.trace_frugal pays).within _
  | _, .field name first others, owner, pays => by
    rw [Fields.paysForItems, Bool.and_eq_true] at pays
    have same : first.trace.decoder = first.decode := first.decoder_trace
    have leaves : (first.trace.decoder.within (.named (owner ++ "::" ++ name))).Leaves :=
      same ▸ (first.decode_reads.within _).leaves
    exact ((first.trace_frugal pays.1).within _).andThen leaves fun value =>
      (others.trace_frugal owner pays.2).map _

/-- So they are in variants, after any tag. -/
theorem Variants.trace_frugal : {tags : List UInt8} → {α : Type} → (cases : Variants tags α) →
    (type : String) → (tag : UInt8) → cases.paysForItems → (cases.trace type tag).Frugal
  | _, _, .none, _, _, _ => quiet_frugal _
  | _, _, .variant own name body others _, type, tag, pays => by
    rw [Variants.paysForItems, Bool.and_eq_true] at pays
    rw [Variants.trace]
    split
    · exact (body.trace_frugal (type ++ "::" ++ name) pays.1).map Sum.inl
    · exact (others.trace_frugal type tag pays.2).map Sum.inr

end

end EnclaveChain.Scale

namespace EnclaveChain

open Scale

/-- Decoding does not amplify its input. What is read as a call has, in all of its vectors together,
at least two items fewer than bytes were read, and a stored value has at most as many. On any bytes,
read or refused, a vector decoder inside a call or a stored value starts to read at most one item
more than there are bytes left, whatever length its prefix declares. The record that tells the
attempts changes nothing about what is read and misses no item of it. Of a list, read or refused,
the attempts that it tells are the items that are read and, where one fails, this one. -/
theorem decoding_never_amplifies :
    (∀ (bytes rest : Bytes) (call : RuntimeCall), RuntimeCall.decode bytes = .ok (call, rest) →
      RuntimeCall.schema.itemCount call + 2 + rest.length ≤ bytes.length) ∧
    (∀ (item : StorageItem) (bytes rest : Bytes) (value : item.layout.Value),
      item.layout.value.decode bytes = .ok (value, rest) →
        item.layout.value.itemCount value + rest.length ≤ bytes.length) ∧
    (∀ bytes : Bytes,
      (∀ run ∈ (RuntimeCall.schema.trace bytes).runs, run.Frugal bytes) ∧
      ∀ item : StorageItem, ∀ run ∈ (item.layout.value.trace bytes).runs, run.Frugal bytes) ∧
    (∀ {α : Type} (schema : Schema α) (bytes : Bytes),
      (schema.trace bytes).outcome = schema.decode bytes ∧
      ∀ value rest, schema.decode bytes = .ok (value, rest) →
        attempts (schema.trace bytes).runs = schema.itemCount value) ∧
    ∀ {α : Type} (item : Schema α) (bytes left : Bytes) (declared : Nat),
      Compact.decode 4 bytes = .ok (declared, left) →
      ∃ attempts inside,
        ((Schema.list item).trace bytes).runs = ⟨declared, left, attempts⟩ :: inside ∧
          item.decode.Starts declared left attempts := by
  have callsPay : RuntimeCall.schema.paysForItems := rfl
  have valuesPay (item : StorageItem) : item.layout.value.paysForItems := by cases item <;> rfl
  refine ⟨?_, ?_, ?_, ?_, ?_⟩
  · intro bytes rest call decoded
    -- The tags of the pallet and of the call are the two bytes that every call spares.
    have spares : RuntimeCall.schema.spare = 2 := rfl
    rw [← spares]
    exact Schema.itemCount_le_of_decode callsPay decoded
  · intro item bytes rest value decoded
    have bound := Schema.itemCount_le_of_decode (valuesPay item) decoded
    omega
  · intro bytes
    refine ⟨RuntimeCall.schema.trace_frugal callsPay bytes, ?_⟩
    intro item
    exact item.layout.value.trace_frugal (valuesPay item) bytes
  · intro α schema bytes
    refine ⟨congrFun schema.decoder_trace bytes, ?_⟩
    intro value rest decoded
    rw [← schema.decoder_trace] at decoded
    exact schema.counts_trace decoded
  · intro α item bytes left declared counted
    exact item.starts_trace counted

/-- A registration of a cluster with one host has a name of two bytes and a domain name of one, so
four items. Where its prefix declares the largest number of hosts and three bytes are left, one
host is read and the second one fails, and so it is with the prefix of a list of hosts alone. A
measurement of three bytes has these as its items. -/
theorem decoding_never_amplifies_hosts :
    let call : RuntimeCall :=
      .worker (.register [0x6b, 0x38] [⟨none, none, some [0x61]⟩] 443 2)
    let hosts : VectorRun := ⟨4294967295, [0, 0, 0], 2⟩
    (RuntimeCall.decode [50, 0, 8, 0x6b, 0x38, 4, 0, 0, 1, 4, 0x61, 187, 1, 0, 0, 2, 9] =
        .ok (call, [9]) ∧
      RuntimeCall.schema.itemCount call = 4 ∧ RuntimeCall.schema.itemCount call + 2 + 1 ≤ 17) ∧
    (StorageItem.enclaveMeasurement.layout.value.decode [12, 1, 2, 3, 9] = .ok ([1, 2, 3], [9]) ∧
      StorageItem.enclaveMeasurement.layout.value.itemCount [1, 2, 3] + 1 ≤ 5 ∧
      attempts (StorageItem.enclaveMeasurement.layout.value.trace [12, 1, 2, 3, 9]).runs = 3) ∧
    (hosts ∈ (RuntimeCall.schema.trace [50, 0, 0, 3, 255, 255, 255, 255, 0, 0, 0]).runs ∧
      hosts.Frugal [50, 0, 0, 3, 255, 255, 255, 255, 0, 0, 0]) ∧
    ((Schema.list HostAddress.schema).trace [3, 255, 255, 255, 255, 0, 0, 0]).runs = [hosts] ∧
      HostAddress.schema.decode.Starts 4294967295 [0, 0, 0] 2 := by
  intro call hosts
  obtain ⟨calls, values, runs, records, lists⟩ := decoding_never_amplifies
  refine ⟨⟨rfl, rfl, ?_⟩, ⟨rfl, ?_, ?_⟩, ?_, ?_⟩
  · exact calls [50, 0, 8, 0x6b, 0x38, 4, 0, 0, 1, 4, 0x61, 187, 1, 0, 0, 2, 9] [9] call rfl
  · exact values .enclaveMeasurement [12, 1, 2, 3, 9] [9] [1, 2, 3] rfl
  · exact (records Schema.bytes [12, 1, 2, 3, 9]).2 [1, 2, 3] [9] rfl
  · have member : hosts ∈
        (RuntimeCall.schema.trace [50, 0, 0, 3, 255, 255, 255, 255, 0, 0, 0]).runs := by decide
    exact ⟨member, (runs _).1 hosts member⟩
  · have recorded : ((Schema.list HostAddress.schema).trace [3, 255, 255, 255, 255, 0, 0, 0]).runs =
        [hosts] := by decide
    have counted : Compact.decode 4 [3, 255, 255, 255, 255, 0, 0, 0] =
        .ok (4294967295, [0, 0, 0]) := (length_reads _ _ _).mpr ⟨by decide, by decide⟩
    obtain ⟨attempts, inside, told, starts⟩ := lists HostAddress.schema _ _ _ counted
    rw [recorded] at told
    obtain rfl : 2 = attempts := congrArg VectorRun.attempts (List.cons.inj told).1
    exact ⟨recorded, starts⟩

-- Both bounds are attained: a call without arguments is its two tags, and one authority is
-- attempted where no byte is left.
example :
    RuntimeCall.decode [30, 1] = .ok (.xcmpQueue .suspendExecution, []) ∧
      (StorageItem.authorities.layout.value.trace [4]).runs = [⟨1, [], 1⟩] := ⟨rfl, rfl⟩

end EnclaveChain
