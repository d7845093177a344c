import EnclaveChain.Proofs.Scale.Reading
import EnclaveChain.Proofs.Storage.Outcome
import EnclaveChain.Storage.Item

/-!
# Falling back to defaults

A read with default does what a read does, and goes on only where nothing is stored. A value that
was read is passed on, and so is a failure, with nothing done after it: bytes that are malformed,
or longer than the value, are never replaced by a default. Where nothing is stored the entry of the
item decides alone, and it is always there, because the key was derived from it.
-/
namespace EnclaveChain

open Scale

/-! ### Results and errors -/

namespace Except

variable {ε α : Type} {result : Except ε α} {value : α}

/-- A value that is wrapped is a value. -/
theorem map_some_eq_ok_iff : result.map some = .ok (some value) ↔ result = .ok value := by
  cases result <;> simp [Except.map]

/-- Wrapping a value changes no error. -/
theorem map_some_eq_error_iff {fault : ε} :
    result.map some = .error fault ↔ result = .error fault := by
  cases result <;> simp [Except.map]

end Except

namespace Traced

variable {α β : Type} {first : Traced α} {next : α → Traced β}

/-- After a value the second operation is done, and its records come last. -/
theorem bind_of_ok {value : α} (done : first.result = .ok value) :
    first >>= next = ⟨(next value).result, first.log ++ (next value).log⟩ := by
  change first.andThen next = _
  simp only [andThen, done]

/-- After a failure nothing is done. -/
theorem bind_of_error {fault : Error} (failed : first.result = .error fault) :
    first >>= next = ⟨.error fault, first.log⟩ := by
  change first.andThen next = _
  simp only [andThen, failed]

end Traced

namespace Scale.Schema

variable {α : Type} {schema : Schema α} {bytes : Bytes}

/-- Why bytes are not one value and no more. -/
inductive Unreadable (schema : Schema α) (bytes : Bytes) : DecodeError → Prop where
  /-- No value stands at the front. -/
  | malformed {cause : DecodeError} (failed : schema.decode bytes = .error cause) :
    Unreadable schema bytes cause
  /-- Bytes come after the value. -/
  | leftover {value : α} {byte : UInt8} {rest : Bytes}
    (read : schema.decode bytes = .ok (value, byte :: rest)) :
    Unreadable schema bytes (.bare .leftover)

/-- Bytes that must be used up are refused exactly when they are not one value and no more. -/
theorem decodeAll_eq_error_iff {cause : DecodeError} :
    schema.decodeAll bytes = .error cause ↔ schema.Unreadable bytes cause := by
  rw [decodeAll, Decoder.all_eq_error_iff]
  constructor
  · rintro (failed | ⟨value, byte, rest, read, rfl⟩)
    · exact .malformed failed
    · exact .leftover read
  · intro unreadable
    cases unreadable with
    | malformed failed => exact .inl failed
    | leftover read => exact .inr ⟨_, _, _, read, rfl⟩

end Scale.Schema

namespace Address

variable {Value : Type} {address : Address Value} {bytes : Bytes} {value : Value} {fault : Error}

/-- Stored bytes have a value exactly when they are it and no more. -/
theorem decodeStored_eq_ok_iff :
    address.decodeStored bytes = .ok value ↔ address.schema.decode bytes = .ok (value, []) := by
  rw [← Decoder.all_eq_ok_iff, decodeStored, Schema.decodeAll]
  cases address.schema.decode.all bytes <;> simp

/-- Otherwise they are blamed with the names of the item. -/
theorem decodeStored_eq_error_iff :
    address.decodeStored bytes = .error fault ↔
      ∃ cause, address.schema.Unreadable bytes cause ∧
        fault = .decode address.pallet address.item cause := by
  simp only [← Schema.decodeAll_eq_error_iff, decodeStored]
  cases address.schema.decodeAll bytes <;> simp [eq_comm]

/-- Default bytes have a value exactly when they are it and no more. -/
theorem decodeDefault_eq_ok_iff :
    address.decodeDefault bytes = .ok value ↔ address.schema.decode bytes = .ok (value, []) := by
  rw [← Decoder.all_eq_ok_iff, decodeDefault, Schema.decodeAll]
  cases address.schema.decode.all bytes <;> simp

/-- Otherwise they are blamed as a default. -/
theorem decodeDefault_eq_error_iff :
    address.decodeDefault bytes = .error fault ↔
      ∃ cause, address.schema.Unreadable bytes cause ∧
        fault = .defaultDecode address.pallet address.item cause := by
  simp only [← Schema.decodeAll_eq_error_iff, decodeDefault]
  cases address.schema.decodeAll bytes <;> simp [eq_comm]

end Address

namespace Reader

variable {Value : Type} {reader : Reader} {address : Address Value} {block : Option Hash}

/-- Why a read fails. -/
inductive FetchFault (reader : Reader) (address : Address Value) (block : Option Hash) :
    Error → Prop where
  /-- The address has no key. -/
  | key {fault : Error} (derived : address.key reader.registry = .error fault) :
    FetchFault reader address block fault
  /-- The source fails. -/
  | source {key : StorageKey} {fault : Error} (derived : address.key reader.registry = .ok key)
    (asked : (reader.backend key block).result = .error fault) :
    FetchFault reader address block fault
  /-- The stored bytes are not one value and no more. -/
  | value {key : StorageKey} {bytes : Bytes} {cause : DecodeError}
    (derived : address.key reader.registry = .ok key)
    (asked : (reader.backend key block).result = .ok (some bytes))
    (unreadable : address.schema.Unreadable bytes cause) :
    FetchFault reader address block (.decode address.pallet address.item cause)

/-! ### What a read comes to -/

/-- Where the address has a key and the source has bytes, a read decodes them. -/
theorem result_fetch_of_stored {key : StorageKey} {bytes : Bytes}
    (derived : address.key reader.registry = .ok key)
    (asked : (reader.backend key block).result = .ok (some bytes)) :
    (reader.fetch address block).result = (address.decodeStored bytes).map some := by
  rw [result_fetch]
  simp only [derived, asked]

/-- A read comes to nothing exactly where the source has no bytes. -/
theorem result_fetch_eq_none_iff {key : StorageKey} {stored? : Option Bytes}
    (derived : address.key reader.registry = .ok key)
    (asked : (reader.backend key block).result = .ok stored?) :
    (reader.fetch address block).result = .ok none ↔ stored? = none := by
  cases stored? with
  | none =>
    rw [result_fetch]
    simp only [derived, asked]
  | some bytes =>
    rw [result_fetch_of_stored derived asked]
    cases address.decodeStored bytes <;> simp [Except.map]

/-- A value is read exactly when the bytes under the key are it and no more. -/
theorem result_fetch_eq_some_iff {value : Value} :
    (reader.fetch address block).result = .ok (some value) ↔
      ∃ key bytes, address.key reader.registry = .ok key ∧
        (reader.backend key block).result = .ok (some bytes) ∧
        address.schema.decode bytes = .ok (value, []) := by
  have decodes : ∀ bytes, (address.decodeStored bytes).map some = .ok (some value) ↔
      address.schema.decode bytes = .ok (value, []) := by
    intro bytes
    rw [Except.map_some_eq_ok_iff, Address.decodeStored_eq_ok_iff]
  constructor
  · intro read
    have outcome := reader.result_fetch address block
    rw [read] at outcome
    split at outcome
    · cases outcome
    · rename_i key derived
      split at outcome
      · cases outcome
      · cases outcome
      · rename_i bytes asked
        exact ⟨key, bytes, derived, asked, (decodes bytes).mp outcome.symm⟩
  · rintro ⟨key, bytes, derived, asked, decoded⟩
    rw [result_fetch_of_stored derived asked]
    exact (decodes bytes).mpr decoded

/-- A read fails exactly for want of a key, with the fault of the source, or on stored bytes that
are not a value. -/
theorem result_fetch_eq_error_iff {fault : Error} :
    (reader.fetch address block).result = .error fault ↔
      FetchFault reader address block fault := by
  have decodes : ∀ bytes, (address.decodeStored bytes).map some = .error fault ↔
      ∃ cause, address.schema.Unreadable bytes cause ∧
        fault = .decode address.pallet address.item cause := by
    intro bytes
    rw [Except.map_some_eq_error_iff, Address.decodeStored_eq_error_iff]
  constructor
  · intro failed
    have outcome := reader.result_fetch address block
    rw [failed] at outcome
    split at outcome
    · rename_i derived
      cases outcome
      exact .key derived
    · rename_i key derived
      split at outcome
      · rename_i asked
        cases outcome
        exact .source derived asked
      · cases outcome
      · rename_i bytes asked
        obtain ⟨cause, unreadable, rfl⟩ := (decodes bytes).mp outcome.symm
        exact .value derived asked unreadable
  · intro failed
    cases failed with
    | key derived => simp only [result_fetch, derived]
    | source derived asked => simp only [result_fetch, derived, asked]
    | value derived asked unreadable =>
      rw [result_fetch_of_stored derived asked]
      exact (decodes _).mpr ⟨_, unreadable, rfl⟩

/-- A read that comes to nothing has found the entry of its item. -/
theorem exists_storageItem_of_fetch_none
    (absent : (reader.fetch address block).result = .ok none) :
    ∃ entry, reader.registry.storageItem address.pallet address.item = .ok entry := by
  cases derived : address.key reader.registry with
  | error fault =>
    have failed : (reader.fetch address block).result = .error fault :=
      result_fetch_eq_error_iff.mpr (.key derived)
    rw [absent] at failed
    cases failed
  | ok key => exact StorageKey.exists_storageItem derived

/-! ### What a read with default comes to -/

/-- A value that was read is passed on, and nothing is done after the read. -/
theorem fetchOrDefault_of_some {value : Value}
    (read : (reader.fetch address block).result = .ok (some value)) :
    reader.fetchOrDefault address block = ⟨.ok value, (reader.fetch address block).log⟩ := by
  rw [fetchOrDefault, Traced.bind_of_ok read]
  simp [pure, Traced.ofExcept]

/-- A failure is passed on, and nothing is done after the read. -/
theorem fetchOrDefault_of_error {fault : Error}
    (failed : (reader.fetch address block).result = .error fault) :
    reader.fetchOrDefault address block = ⟨.error fault, (reader.fetch address block).log⟩ := by
  rw [fetchOrDefault, Traced.bind_of_error failed]

end Reader

/-- A result is what the entry of an item says about its absence. -/
structure StorageEntry.Decides {Value : Type} (entry : StorageEntry) (address : Address Value)
    (result : Except Error Value) : Prop where
  /-- There is no default exactly where absence means that there is no value. -/
  noDefault : result = .error (.noDefault address.pallet address.item) ↔
    entry.modifier = .optional
  /-- There is a value exactly where the default is one and no more. -/
  value : ∀ value, result = .ok value ↔
    entry.modifier = .default ∧ address.schema.decode entry.default = .ok (value, [])
  /-- The default is to blame exactly where it is not a value. -/
  unreadable : ∀ cause, result = .error (.defaultDecode address.pallet address.item cause) ↔
    entry.modifier = .default ∧ address.schema.Unreadable entry.default cause
  /-- Nothing else goes wrong. -/
  onlyFaults : ∀ fault, result = .error fault →
    fault = .noDefault address.pallet address.item ∨
      ∃ cause, fault = .defaultDecode address.pallet address.item cause

namespace Reader

variable {Value : Type} {reader : Reader} {address : Address Value} {block : Option Hash}

/-- A default is what its entry says. -/
theorem decides_default {entry : StorageEntry}
    (found : reader.registry.storageItem address.pallet address.item = .ok entry) :
    entry.Decides address (reader.default address).result := by
  have outcome := reader.result_default address
  simp only [found, StorageEntry.default?] at outcome
  cases modifier : entry.modifier with
  | optional =>
    simp only [modifier] at outcome
    constructor <;> simp [outcome, modifier]
  | default =>
    simp only [modifier] at outcome
    rw [outcome]
    constructor
    · simp [Address.decodeDefault_eq_error_iff, modifier]
    · simp [Address.decodeDefault_eq_ok_iff, modifier]
    · simp [Address.decodeDefault_eq_error_iff, modifier]
    · intro fault failed
      obtain ⟨cause, -, named⟩ := Address.decodeDefault_eq_error_iff.mp failed
      exact .inr ⟨cause, named⟩

/-- Where a read comes to nothing, the entry of the item decides. -/
theorem decides_fetchOrDefault (absent : (reader.fetch address block).result = .ok none) :
    ∃ entry, reader.registry.storageItem address.pallet address.item = .ok entry ∧
      entry.Decides address (reader.fetchOrDefault address block).result := by
  obtain ⟨entry, found⟩ := exists_storageItem_of_fetch_none absent
  refine ⟨entry, found, ?_⟩
  simp only [result_fetchOrDefault, absent]
  exact decides_default found

end Reader

/-- A read with default extends a read and hides no failure. For every source and registry, every
address and every block: a value is read exactly when all of the bytes that the source has under
the key of the address are its encoding, and the failures of a read are those listed in
`FetchFault`. A value that was read, and a failure, are also what a read with default comes to,
with no record after those of the read, so that no default was looked up. Where a read comes to
nothing, the item has an entry, and it alone decides. -/
theorem fetchOrDefault_extends_fetch {Value : Type} (reader : Reader) (address : Address Value)
    (block : Option Hash) :
    (∀ value, (reader.fetch address block).result = .ok (some value) ↔
      ∃ key bytes, address.key reader.registry = .ok key ∧
        (reader.backend key block).result = .ok (some bytes) ∧
        address.schema.decode bytes = .ok (value, [])) ∧
    (∀ fault, (reader.fetch address block).result = .error fault ↔
      reader.FetchFault address block fault) ∧
    (∀ value, (reader.fetch address block).result = .ok (some value) →
      reader.fetchOrDefault address block = ⟨.ok value, (reader.fetch address block).log⟩) ∧
    (∀ fault, (reader.fetch address block).result = .error fault →
      reader.fetchOrDefault address block = ⟨.error fault, (reader.fetch address block).log⟩) ∧
    ((reader.fetch address block).result = .ok none →
      ∃ entry, reader.registry.storageItem address.pallet address.item = .ok entry ∧
        entry.Decides address (reader.fetchOrDefault address block).result) := by
  refine ⟨?_, ?_, ?_, ?_, ?_⟩
  · intro value
    exact Reader.result_fetch_eq_some_iff
  · intro fault
    exact Reader.result_fetch_eq_error_iff
  · intro value read
    exact Reader.fetchOrDefault_of_some read
  · intro fault failed
    exact Reader.fetchOrDefault_of_error failed
  · intro absent
    exact Reader.decides_fetchOrDefault absent

/-- The number of the block, from sources that give one answer to every question: a number is
passed on, half a number is refused though the item has a default, and the default stands where
there is no answer. -/
theorem fetchOrDefault_extends_fetch_blockNumber :
    let reader (stored : Option Bytes) : Reader := ⟨fun _ _ => ⟨.ok stored, []⟩, .builtin⟩
    let address := (Slot.mk .blockNumber ()).address
    ((reader (some [5, 0, 0, 0])).fetchOrDefault address none).result = .ok (5 : UInt32) ∧
    ((reader (some [5, 0])).fetchOrDefault address none).result =
      .error (.decode "System" "Number" (.bare .endOfData)) ∧
    ((reader none).fetchOrDefault address none).result = .ok (0 : UInt32) := by
  intro reader address
  refine ⟨?_, ?_, ?_⟩
  · obtain ⟨read, -, passed, -⟩ :=
      fetchOrDefault_extends_fetch (reader (some [5, 0, 0, 0])) address none
    have decoded := (read (5 : UInt32)).mpr ⟨_, [5, 0, 0, 0], rfl, rfl, rfl⟩
    exact congrArg Traced.result (passed _ decoded)
  · obtain ⟨-, failed, -, passed, -⟩ :=
      fetchOrDefault_extends_fetch (reader (some [5, 0])) address none
    have short := (failed _).mpr (.value rfl rfl (.malformed rfl))
    exact congrArg Traced.result (passed _ short)
  · obtain ⟨-, -, -, -, absent⟩ := fetchOrDefault_extends_fetch (reader none) address none
    obtain ⟨entry, found, decides⟩ := absent rfl
    cases found
    exact (decides.value (0 : UInt32)).mpr ⟨rfl, rfl⟩

end EnclaveChain
