import EnclaveChain.Proofs.Storage.Outcome
import EnclaveChain.Proofs.Storage.Slot
import Mathlib.Data.List.Induction

/-!
# Memory as a typed map

Values are written to a state in memory under the keys of slots, in the latest state or at a block,
and read back through the layouts of the slots. What is read is the value of the last write to the
same slot in the same place. A write to another item, to other arguments or to another block goes
to another key or another layer, because no two slots share a place; and what was encoded decodes
to itself, because layouts are exact.
-/
namespace EnclaveChain

open Scale

/-- A value that is stored at a slot. -/
structure Write where
  /-- The block, or none for the latest state. -/
  block : Option Hash
  /-- The slot. -/
  slot : Slot
  /-- The value. -/
  value : slot.Value
  /-- All vectors of the value have fewer than `2 ^ 32` items. -/
  fits : slot.item.layout.value.fits value

namespace Write

/-- Whether a write goes to a slot at a block, or in the latest state. -/
def GoesTo (write : Write) (slot : Slot) (block : Option Hash) : Prop :=
  write.slot = slot ∧ write.block = block

/-- The encoded value. -/
def bytes (write : Write) : Bytes := write.slot.item.layout.value.encode write.value

/-- Stores the encoded value under the key of the address of the slot. -/
def apply (state : MemoryState) (write : Write) : Except Error MemoryState :=
  match write.slot.address.key Registry.builtin with
  | .error fault => .error fault
  | .ok key => .ok (state.insert write.block key write.bytes)

/-- Stores values one after the other. -/
def applyAll (state : MemoryState) (writes : List Write) : Except Error MemoryState :=
  writes.foldlM apply state

end Write

/-- What the last write to a slot at a block, or in the latest state, left there. -/
inductive LastWritten (slot : Slot) (block : Option Hash) :
    List Write → Option slot.Value → Prop where
  /-- No write goes there. -/
  | never {writes : List Write} (apart : ∀ write ∈ writes, ¬ write.GoesTo slot block) :
      LastWritten slot block writes none
  /-- A write goes there and no later one does. -/
  | last {earlier later : List Write} {value : slot.Value}
      {fits : slot.item.layout.value.fits value}
      (apart : ∀ write ∈ later, ¬ write.GoesTo slot block) :
      LastWritten slot block (earlier ++ ⟨block, slot, value, fits⟩ :: later) (some value)

/-! ### Writes -/

/-- Different slots have different places. -/
theorem Slot.place_injective : Function.Injective Slot.place := by
  intro left right same
  have within : left.place.bytes <+: right.place.bytes := ⟨[], by rw [List.append_nil, same]⟩
  exact Slot.eq_of_place_prefix within

namespace Write

/-- A write always succeeds, and goes to the place of its slot. -/
theorem apply_eq (state : MemoryState) (write : Write) :
    write.apply state = .ok (state.insert write.block write.slot.place write.bytes) := by
  rw [apply, write.slot.address_key]

end Write

namespace LastWritten

variable {slot : Slot} {block : Option Hash} {writes : List Write}

/-- A write to the slot and the block is the last one there. -/
theorem append_same (write : Write) :
    LastWritten write.slot write.block (writes ++ [write]) (some write.value) :=
  .last (by simp)

/-- A write to another slot or another block leaves the last one there as it is. -/
theorem append_other {found : Option slot.Value} {write : Write}
    (before : LastWritten slot block writes found) (apart : ¬ write.GoesTo slot block) :
    LastWritten slot block (writes ++ [write]) found := by
  cases before with
  | never others =>
    apply LastWritten.never
    intro other member
    rcases List.mem_append.mp member with earlier | new
    · exact others other earlier
    · rwa [List.mem_singleton.mp new]
  | last others =>
    rw [List.append_assoc, List.cons_append]
    apply LastWritten.last
    intro other member
    rcases List.mem_append.mp member with later | new
    · exact others other later
    · rwa [List.mem_singleton.mp new]

/-- A write that goes to the slot and the block is no later than the last one there. -/
theorem eq_of_suffix {last write : Write} {between later others : List Write}
    (tail : last :: later = between ++ write :: others) (here : write.GoesTo slot block)
    (apart : ∀ write ∈ later, ¬ write.GoesTo slot block) : last = write := by
  cases between with
  | nil => exact (List.cons.inj tail).1
  | cons first between =>
    obtain ⟨-, rfl⟩ := List.cons.inj tail
    exact absurd here (apart write List.mem_append_cons_self)

/-- There is one last write at most. -/
theorem unique {left right : Option slot.Value} (first : LastWritten slot block writes left)
    (second : LastWritten slot block writes right) : left = right := by
  cases first with
  | never apart =>
    cases second with
    | never others => rfl
    | last others => exact absurd ⟨rfl, rfl⟩ (apart _ List.mem_append_cons_self)
  | @last earlier later value fits apart =>
    generalize same : earlier ++ (⟨block, slot, value, fits⟩ : Write) :: later = writes at second
    cases second with
    | never others =>
      subst same
      exact absurd ⟨rfl, rfl⟩ (others _ List.mem_append_cons_self)
    | @last earlier' later' value' fits' others =>
      -- of two writes in one list either both stand in one position or one is later
      rcases List.append_eq_append_iff.mp same with ⟨between, -, tail⟩ | ⟨between, -, tail⟩
      · cases eq_of_suffix tail ⟨rfl, rfl⟩ apart
        rfl
      · cases eq_of_suffix tail ⟨rfl, rfl⟩ others
        rfl

end LastWritten

namespace MemoryState

/-- A state holds some writes when it has, in every place, the bytes of the last value written
there. -/
def Holds (state : MemoryState) (writes : List Write) : Prop :=
  ∀ (slot : Slot) (block : Option Hash), ∃ found : Option slot.Value,
    LastWritten slot block writes found ∧
      (∀ value ∈ found, slot.item.layout.value.fits value) ∧
      state.get? slot.place block = found.map slot.item.layout.value.encode

/-- Nothing was written to the empty state. -/
theorem holds_empty : MemoryState.empty.Holds [] := by
  intro slot block
  refine ⟨none, .never (by simp), by simp, ?_⟩
  cases block <;> rfl

/-- A state that holds some writes holds one more when it is done. -/
theorem Holds.insert {state : MemoryState} {writes : List Write} (holds : state.Holds writes)
    (write : Write) :
    (state.insert write.block write.slot.place write.bytes).Holds (writes ++ [write]) := by
  intro slot block
  rw [get?_insert]
  by_cases here : write.GoesTo slot block
  · obtain ⟨rfl, rfl⟩ := here
    refine ⟨some write.value, LastWritten.append_same write, ?_, by simp [Write.bytes]⟩
    rintro value ⟨⟩
    exact write.fits
  · obtain ⟨found, last, fitting, stored⟩ := holds slot block
    have elsewhere : ¬ (write.block = block ∧ write.slot.place = slot.place) := by
      rintro ⟨blocks, places⟩
      exact here ⟨Slot.place_injective places, blocks⟩
    refine ⟨found, last.append_other here, fitting, ?_⟩
    rw [if_neg elsewhere, stored]

/-- Writes always succeed and lead to a state that holds them. -/
theorem exists_holds (writes : List Write) :
    ∃ state, Write.applyAll .empty writes = .ok state ∧ state.Holds writes := by
  induction writes using List.reverseRecOn with
  | nil => exact ⟨.empty, rfl, holds_empty⟩
  | append_singleton writes write ih =>
    obtain ⟨state, done, holds⟩ := ih
    refine ⟨state.insert write.block write.slot.place write.bytes, ?_, holds.insert write⟩
    rw [Write.applyAll] at done ⊢
    rw [List.foldlM_append, done]
    change (write.apply state >>= pure) = _
    rw [Write.apply_eq]
    rfl

end MemoryState

/-! ### Reads -/

/-- A read of a state that holds some writes comes to what the last one left. -/
theorem MemoryState.Holds.result_fetch {state : MemoryState} {writes : List Write}
    (holds : state.Holds writes) (slot : Slot) (block : Option Hash) :
    ∃ found : Option slot.Value, LastWritten slot block writes found ∧
      (Reader.fetch ⟨state.backend, .builtin⟩ slot.address block).result = .ok found := by
  obtain ⟨found, last, fitting, stored⟩ := holds slot block
  refine ⟨found, last, ?_⟩
  rw [Reader.result_fetch, slot.address_key]
  simp only [MemoryState.backend, stored]
  cases found with
  | none => rfl
  | some value =>
    have decoded : slot.item.layout.value.decodeAll (slot.item.layout.value.encode value) =
        .ok value :=
      (Schema.decodeAll_eq_ok_iff _).mpr ⟨fitting value rfl, rfl⟩
    simp only [Option.map_some, Address.decodeStored]
    have same : slot.address.schema = slot.item.layout.value := rfl
    rw [same, decoded]
    rfl

/-- Memory read through typed addresses is a typed map. Values written to slots, in the latest
state or at blocks and in any order, are always stored; and a read of any slot in any place never
fails and comes to the value of the last write to this slot in this place, or to nothing when there
was none. -/
theorem memory_is_typed_map (writes : List Write) :
    ∃ state, Write.applyAll .empty writes = .ok state ∧
      ∀ (slot : Slot) (block : Option Hash),
        (∃ found, (Reader.fetch ⟨state.backend, .builtin⟩ slot.address block).result = .ok found) ∧
        ∀ found, (Reader.fetch ⟨state.backend, .builtin⟩ slot.address block).result = .ok found ↔
          LastWritten slot block writes found := by
  obtain ⟨state, done, holds⟩ := MemoryState.exists_holds writes
  refine ⟨state, done, ?_⟩
  intro slot block
  obtain ⟨found, last, read⟩ := holds.result_fetch slot block
  refine ⟨⟨found, read⟩, ?_⟩
  intro other
  rw [read, Except.ok.injEq]
  constructor
  · rintro rfl
    exact last
  · intro otherLast
    exact last.unique otherLast

end EnclaveChain
