import EnclaveChain.Proofs.Registry.Lookup
import EnclaveChain.Storage.State
import Mathlib.Data.List.Nodup

/-!
# Memory as the fold of its writes

Bytes are written to a state in memory one after the other, under any keys, in the latest state or
at blocks. What a place has afterwards is what the last write to it left (`get?_writeAll`). Where
no two writes go to one place, it is what the only write to it left, so their order is no matter
(`get?_writeAll_eq_some_iff`).
-/
namespace EnclaveChain

/-- Bytes to be stored under a key. -/
structure RawWrite where
  /-- The block, or none for the latest state. -/
  block : Option Hash
  /-- The key. -/
  key : StorageKey
  /-- The bytes. -/
  bytes : Bytes
deriving DecidableEq

/-- Where a write goes. -/
def RawWrite.place (write : RawWrite) : Option Hash × StorageKey := (write.block, write.key)

namespace MemoryState

/-- Stores bytes one after the other. -/
def writeAll (state : MemoryState) (writes : List RawWrite) : MemoryState :=
  writes.foldl (fun state write => state.insert write.block write.key write.bytes) state

/-- Nothing is stored in the empty state. -/
@[simp]
theorem get?_empty (key : StorageKey) (block : Option Hash) : empty.get? key block = none := by
  cases block <;> rfl

variable {key : StorageKey} {block : Option Hash}

/-- A place has what the last write to it left, and without one what it had. -/
theorem get?_writeAll (state : MemoryState) (writes : List RawWrite) :
    (state.writeAll writes).get? key block =
      ((writes.reverse.find? fun write => write.place = (block, key)).map (·.bytes)).or
        (state.get? key block) := by
  induction writes generalizing state with
  | nil => rfl
  | cons write writes ih =>
    have first : state.writeAll (write :: writes) =
        (state.insert write.block write.key write.bytes).writeAll writes := rfl
    rw [first, ih, get?_insert, List.reverse_cons, List.find?_append, Option.map_or,
      Option.or_assoc]
    by_cases here : write.block = block ∧ write.key = key
    · simp [here, RawWrite.place]
    · have elsewhere : write.place ≠ (block, key) := fun same => here (Prod.mk.inj same)
      simp [here, elsewhere]

/-- Where no two writes go to one place, a place has what is written to it, in whatever order. -/
theorem get?_writeAll_eq_some_iff {writes : List RawWrite}
    (apart : (writes.map RawWrite.place).Nodup) {bytes : Bytes} :
    (empty.writeAll writes).get? key block = some bytes ↔ ⟨block, key, bytes⟩ ∈ writes := by
  have backwards : (writes.reverse.map RawWrite.place).Nodup := by
    rwa [List.map_reverse, List.nodup_reverse]
  rw [get?_writeAll, get?_empty, Option.or_none, Option.map_eq_some_iff]
  constructor
  · rintro ⟨write, found, rfl⟩
    obtain ⟨member, same⟩ := (find?_key_eq_some_iff backwards).mp found
    obtain ⟨rfl, rfl⟩ := Prod.mk.inj same
    exact List.mem_reverse.mp member
  · intro member
    exact ⟨_, (find?_key_eq_some_iff backwards).mpr ⟨List.mem_reverse.mpr member, rfl⟩, rfl⟩

end MemoryState

end EnclaveChain
