import EnclaveChain.Proofs.Scale.Exact
import EnclaveChain.Proofs.Scale.Steady
import EnclaveChain.Storage.Item

/-!
# The wire format of calls and stored values

Calls and stored values are laid out by schemas, and every schema is exact and steady, so the wire
format has three properties that no list of examples shows: nothing that was written is lost or
misread in front of other bytes, nothing that is read could have been written in a second way, and
nothing that is malformed is mended by the bytes after it.
-/
namespace EnclaveChain

open Scale

/-- A registration of a cluster, with vectors, options and options of vectors in it. -/
def sampleRegistration : RuntimeCall :=
  .worker <|
    .register [0x6b, 0x38] [⟨some 0x7f000001, none, none⟩, ⟨none, some 1, some [0x61]⟩] 443 2

/-- Calls, stored values, creations, changes, identities and receivers are read back from their
encodings, and the bytes after them are left. -/
theorem encodings_read_back :
    (∀ (call : RuntimeCall) (rest : Bytes), RuntimeCall.schema.fits call →
      RuntimeCall.decode (call.encode ++ rest) = .ok (call, rest)) ∧
    (∀ item : StorageItem, item.layout.value.Lawful) ∧
    WorkloadSpec.schema.Lawful ∧ WorkloadUpdate.schema.Lawful ∧ WorkloadId.schema.Lawful ∧
    MultiAddress.schema.Lawful := by
  refine ⟨?_, ?_, ?_, ?_, ?_, ?_⟩
  · intro call rest fitting
    exact RuntimeCall.schema.lawful call rest fitting
  · intro item
    exact item.layout.value.lawful
  · exact WorkloadSpec.schema.lawful
  · exact WorkloadUpdate.schema.lawful
  · exact WorkloadId.schema.lawful
  · exact MultiAddress.schema.lawful

/-- The registration is read back in front of two bytes that are not part of it. -/
theorem encodings_read_back_registration :
    RuntimeCall.schema.fits sampleRegistration ∧
      RuntimeCall.decode (sampleRegistration.encode ++ [7, 0]) = .ok (sampleRegistration, [7, 0]) :=
  ⟨rfl, encodings_read_back.1 sampleRegistration [7, 0] rfl⟩

/-- A call or a stored value is read only from its encoding, so two byte strings that are used up
are never read as the same one. -/
theorem decoded_bytes_are_encodings :
    (∀ (bytes rest : Bytes) (call : RuntimeCall), RuntimeCall.decode bytes = .ok (call, rest) →
      bytes = call.encode ++ rest) ∧
    (∀ item : StorageItem, item.layout.value.Canonical) ∧
    (∀ (left right : Bytes) (call : RuntimeCall), RuntimeCall.schema.decodeAll left = .ok call →
      RuntimeCall.schema.decodeAll right = .ok call → left = right) ∧
    (∀ (item : StorageItem) (left right : Bytes) (value : item.layout.Value),
      item.layout.value.decodeAll left = .ok value →
        item.layout.value.decodeAll right = .ok value → left = right) := by
  have used {α : Type} (schema : Schema α) {left right : Bytes} {value : α}
      (first : schema.decodeAll left = .ok value) (second : schema.decodeAll right = .ok value) :
      left = right := by
    rw [(schema.decodeAll_eq_ok_iff.mp first).2, (schema.decodeAll_eq_ok_iff.mp second).2]
  refine ⟨?_, ?_, ?_, ?_⟩
  · intro bytes rest call decoded
    exact RuntimeCall.schema.canonical bytes call rest decoded
  · intro item
    exact item.layout.value.canonical
  · intro left right call
    exact used RuntimeCall.schema
  · intro item left right value
    exact used item.layout.value

/-- The bytes of a rerun of task 7 and one byte more, read and written again. -/
theorem decoded_bytes_are_encodings_rerun :
    RuntimeCall.decode [52, 2, 7, 0, 0, 0, 0, 0, 0, 0, 9] = .ok (.task (.rerun 7), [9]) ∧
      [52, 2, 7, 0, 0, 0, 0, 0, 0, 0, 9] = (RuntimeCall.task (.rerun 7)).encode ++ [9] :=
  ⟨rfl, decoded_bytes_are_encodings.1 _ [9] (.task (.rerun 7)) rfl⟩

/-- A refusal whose text does not say that data is missing stays what it is under more data. -/
theorem Scale.Schema.refusal_lasts {α : Type} (schema : Schema α) {bytes : Bytes}
    {error : DecodeError} (more : Bytes) (refused : schema.decode bytes = .error error)
    (noBuffer : error.cause.message ≠ "Not enough data to fill buffer")
    (noVector : error.cause.message ≠ "Not enough data to decode vector") :
    schema.decode (bytes ++ more) = .error error := by
  have lasting : ¬ error.cause.isShort := by
    intro short
    rcases error.cause.isShort_iff_message.mp short with same | same
    · exact noBuffer same
    · exact noVector same
  exact schema.decode_steady.fault more refused (Bool.eq_false_iff.mpr lasting)

/-- More data mends nothing but a want of data. A byte string that is refused as a call with any
other text at the root is refused with the same error, the names of the parts included, whatever
comes after it; and a call that is read is read again and leaves what came after it. The same holds
of the value of every address. -/
theorem malformed_bytes_stay_malformed :
    (∀ (bytes more : Bytes) (error : DecodeError), RuntimeCall.decode bytes = .error error →
      error.cause.message ≠ "Not enough data to fill buffer" →
      error.cause.message ≠ "Not enough data to decode vector" →
      RuntimeCall.decode (bytes ++ more) = .error error) ∧
    (∀ (bytes more rest : Bytes) (call : RuntimeCall),
      RuntimeCall.decode bytes = .ok (call, rest) →
      RuntimeCall.decode (bytes ++ more) = .ok (call, rest ++ more)) ∧
    ∀ {Value : Type} (address : Address Value) (bytes more : Bytes),
      (∀ error, address.schema.decode bytes = .error error →
        error.cause.message ≠ "Not enough data to fill buffer" →
        error.cause.message ≠ "Not enough data to decode vector" →
        address.schema.decode (bytes ++ more) = .error error) ∧
      ∀ value rest, address.schema.decode bytes = .ok (value, rest) →
        address.schema.decode (bytes ++ more) = .ok (value, rest ++ more) := by
  refine ⟨?_, ?_, ?_⟩
  · intro bytes more error refused
    exact RuntimeCall.schema.refusal_lasts more refused
  · intro bytes more rest call decoded
    exact RuntimeCall.schema.decode_steady.value more decoded
  · intro Value address bytes more
    constructor
    · intro error refused
      exact address.schema.refusal_lasts more refused
    · intro value rest decoded
      exact address.schema.decode_steady.value more decoded

/-- A proof upload whose option has the first byte 2 is refused for it, with more data as without;
so is an authority list whose length has a longer form than it needs; and a rerun that is read
leaves the bytes after it. -/
theorem malformed_bytes_stay_malformed_option :
    RuntimeCall.decode ([50, 7, 0, 1, 0, 0, 0, 0, 0, 0, 0, 2] ++ [0, 0]) =
        .error ⟨[.named "RuntimeCall::WeteeWorker.0", .named "Call::WorkProofUpload::proof"],
          .optionByte⟩ ∧
      StorageItem.authorities.layout.value.decode ([1, 0] ++ [7]) =
        .error (.bare (.compactRange 4)) ∧
      RuntimeCall.decode ([52, 2, 7, 0, 0, 0, 0, 0, 0, 0] ++ [9]) =
        .ok (.task (.rerun 7), [9]) := by
  obtain ⟨refusals, calls, values⟩ := malformed_bytes_stay_malformed
  refine ⟨refusals _ [0, 0] _ rfl (by decide) (by decide), ?_, calls _ [9] [] _ rfl⟩
  exact (values (Slot.mk .authorities ()).address [1, 0] [7]).1 _ rfl (by decide) (by decide)

end EnclaveChain
