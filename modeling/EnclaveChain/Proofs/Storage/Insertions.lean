import EnclaveChain.Proofs.Storage.RawState
import EnclaveChain.Storage.Item

/-!
# Memory as what its insertions leave

A state in memory is filled in three ways: with an encoded value or with bytes in the latest state,
and with an encoded value in the state of a block. Whatever the order, a place has the bytes that
the last insertion left there, and a place that none goes to has nothing
(`last_insertion_stands`). A place sees only the insertions that go to it, so those that go to
other places may be moved around them.
-/
namespace EnclaveChain

/-- A way to fill a state in memory. -/
inductive Insertion : Type 1 where
  /-- A value of any type that is encoded, in the latest state. -/
  | encoded {Value : Type} (encode : Value → Bytes) (key : StorageKey) (value : Value)
  /-- Bytes, in the latest state. -/
  | raw (key : StorageKey) (bytes : Bytes)
  /-- A value of any type that is encoded, in the state of a block. -/
  | encodedAt {Value : Type} (encode : Value → Bytes) (block : Hash) (key : StorageKey)
    (value : Value)

namespace Insertion

/-- The state after an insertion. -/
def perform (state : MemoryState) : Insertion → MemoryState
  | encoded encode key value => state.insert none key (encode value)
  | raw key bytes => state.insert none key bytes
  | encodedAt encode block key value => state.insert (some block) key (encode value)

/-- The state that insertions, one after the other, make of the empty state. -/
def performAll (insertions : List Insertion) : MemoryState := insertions.foldl perform .empty

/-- Where an insertion goes and the bytes that it leaves there. -/
def write : Insertion → RawWrite
  | encoded encode key value => ⟨none, key, encode value⟩
  | raw key bytes => ⟨none, key, bytes⟩
  | encodedAt encode block key value => ⟨some block, key, encode value⟩

/-- An insertion stores its bytes at its place. -/
theorem perform_eq (state : MemoryState) (insertion : Insertion) :
    insertion.perform state =
      state.insert insertion.write.block insertion.write.key insertion.write.bytes := by
  cases insertion <;> rfl

/-- Insertions store their bytes at their places, one after the other. -/
theorem performAll_eq (insertions : List Insertion) :
    performAll insertions = MemoryState.empty.writeAll (insertions.map write) := by
  rw [performAll, MemoryState.writeAll, List.foldl_map]
  congr 1
  funext state insertion
  exact perform_eq state insertion

end Insertion

namespace MemoryState

variable {writes : List RawWrite} {key : StorageKey} {block : Option Hash}

/-- A place has what the last of the writes that go there left. -/
theorem get?_writeAll_empty :
    (empty.writeAll writes).get? key block =
      (writes.filter fun write => write.place = (block, key)).getLast?.map (·.bytes) := by
  rw [get?_writeAll, get?_empty, Option.or_none, ← List.head?_filter, List.filter_reverse,
    List.head?_reverse]

/-- A place has some bytes exactly if a write left them there and no later one goes there. -/
theorem get?_writeAll_eq_some_iff_last {bytes : Bytes} :
    (empty.writeAll writes).get? key block = some bytes ↔
      ∃ earlier later, writes = earlier ++ ⟨block, key, bytes⟩ :: later ∧
        ∀ other ∈ later, other.place ≠ (block, key) := by
  rw [get?_writeAll, get?_empty, Option.or_none, Option.map_eq_some_iff]
  simp only [List.find?_eq_some_iff_append, List.reverse_eq_append_iff]
  constructor
  · rintro ⟨⟨place, other, bytes⟩, ⟨here, later, earlier, split, apart⟩, rfl⟩
    obtain ⟨rfl, rfl⟩ := Prod.mk.inj (of_decide_eq_true here)
    refine ⟨earlier.reverse, later.reverse, by simpa using split, ?_⟩
    intro write member
    simpa using apart write (List.mem_reverse.mp member)
  · rintro ⟨earlier, later, rfl, apart⟩
    refine ⟨⟨block, key, bytes⟩, ⟨decide_eq_true rfl, later.reverse, earlier.reverse, by simp, ?_⟩,
      rfl⟩
    intro write member
    simpa using apart write (List.mem_reverse.mp member)

/-- A place has nothing exactly if no write goes there. -/
theorem get?_writeAll_eq_none_iff :
    (empty.writeAll writes).get? key block = none ↔
      ∀ write ∈ writes, write.place ≠ (block, key) := by
  rw [get?_writeAll_empty, Option.map_eq_none_iff, List.getLast?_eq_none_iff,
    List.filter_eq_nil_iff]
  simp only [decide_eq_true_eq, ne_eq]

/-- States are the same source of bytes when the writes to each place are the same. -/
theorem backend_writeAll_congr {others : List RawWrite}
    (same : ∀ place, (writes.filter fun write => write.place = place) =
      others.filter fun write => write.place = place) :
    (empty.writeAll writes).backend = (empty.writeAll others).backend := by
  funext key block
  simp only [backend, get?_writeAll_empty, same]

end MemoryState

/-- A state in memory keeps the last insertion for each place and nothing else. After any
insertions a query for a key, of the latest state or of a block, is answered with some bytes, which
may be none at all, exactly if an insertion left these bytes under this key in the latest state, or
in this block, and no later one goes there; and it is answered with nothing exactly if no insertion
goes there. So two runs with the same insertions for each place, in the same order there, make one
source of bytes, and they still do when the same insertions follow both. -/
theorem last_insertion_stands (insertions : List Insertion) :
    (∀ key block bytes,
      ((Insertion.performAll insertions).backend key block).result = .ok (some bytes) ↔
        ∃ earlier later,
          insertions.map Insertion.write = earlier ++ ⟨block, key, bytes⟩ :: later ∧
          ∀ other ∈ later, other.place ≠ (block, key)) ∧
    (∀ key block, ((Insertion.performAll insertions).backend key block).result = .ok none ↔
      ∀ write ∈ insertions.map Insertion.write, write.place ≠ (block, key)) ∧
    ∀ others : List Insertion,
      (∀ place, ((insertions.map Insertion.write).filter fun write => write.place = place) =
        (others.map Insertion.write).filter fun write => write.place = place) →
      ∀ later, (Insertion.performAll (insertions ++ later)).backend =
        (Insertion.performAll (others ++ later)).backend := by
  refine ⟨?_, ?_, ?_⟩
  · intro key block bytes
    rw [Insertion.performAll_eq, ← MemoryState.get?_writeAll_eq_some_iff_last]
    simp only [MemoryState.backend, Except.ok.injEq]
  · intro key block
    rw [Insertion.performAll_eq, ← MemoryState.get?_writeAll_eq_none_iff]
    simp only [MemoryState.backend, Except.ok.injEq]
  · intro others same later
    rw [Insertion.performAll_eq, Insertion.performAll_eq]
    apply MemoryState.backend_writeAll_congr
    intro place
    rw [List.map_append, List.map_append, List.filter_append, List.filter_append, same]

/-- Bytes, a number at a block and no bytes at all are left under one key, and bytes under a longer
one. The latest state has no bytes there, which is something, while under a shorter key it has
nothing. Moved around each other, but for the two that go to one place, they make the same
source. -/
theorem last_insertion_stands_longer_key :
    let block : Hash := ⟨List.replicate 32 0, List.length_replicate⟩
    let bytes : Insertion := .raw ⟨[1]⟩ [9]
    let number : Insertion := .encodedAt Scale.Schema.u32.encode block ⟨[1]⟩ (5 : UInt32)
    let nothing : Insertion := .raw ⟨[1]⟩ []
    let longer : Insertion := .raw ⟨[1, 2]⟩ [7]
    let source := (Insertion.performAll [bytes, number, nothing, longer]).backend
    (source ⟨[1]⟩ none).result = .ok (some []) ∧
      (source ⟨[1]⟩ (some block)).result = .ok (some [5, 0, 0, 0]) ∧
      (source ⟨[]⟩ none).result = .ok none ∧
      source = (Insertion.performAll [longer, bytes, nothing, number]).backend := by
  intro block bytes number nothing longer source
  obtain ⟨stored, absent, moved⟩ := last_insertion_stands [bytes, number, nothing, longer]
  refine ⟨?_, ?_, ?_, ?_⟩
  · exact (stored ⟨[1]⟩ none []).mpr ⟨[bytes.write, number.write], [longer.write], rfl, by decide⟩
  · exact (stored ⟨[1]⟩ (some block) [5, 0, 0, 0]).mpr
      ⟨[bytes.write], [nothing.write, longer.write], rfl, by decide⟩
  · exact (absent ⟨[]⟩ none).mpr (by decide)
  · refine moved [longer, bytes, nothing, number] (fun place => ?_) []
    by_cases latest : (none, ⟨[1]⟩) = place
    · subst latest
      rfl
    · by_cases later : (none, ⟨[1, 2]⟩) = place
      · subst later
        rfl
      · simp [bytes, number, nothing, longer, Insertion.write, RawWrite.place, List.filter_cons,
          latest, later]

end EnclaveChain
