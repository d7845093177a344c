import EnclaveChain.Proofs.Node.Stored
import EnclaveChain.Proofs.Storage.RawState
import EnclaveChain.Storage.Item

/-!
# A node and its mirror in memory

All that a node has can be written to a state in memory: what it has at each block at this block,
and what it has at the latest final block also in the latest state. The two sources then answer
alike, whatever the order of the writes, and reads depend on nothing but the answers of their
source and the registry (`mirror_reads_alike`).
-/
namespace EnclaveChain

/-! ### Reads -/

namespace Reader

variable {left right : Backend} {here there : Option Hash} {Value : Type}

/-- A read comes to the same where two sources give the same answers. -/
theorem result_fetch_congr (same : ∀ key, (left key here).result = (right key there).result)
    (registry : Registry) (address : Address Value) :
    (fetch ⟨left, registry⟩ address here).result =
      (fetch ⟨right, registry⟩ address there).result := by
  simp only [result_fetch, same]

/-- So does a read with default. -/
theorem result_fetchOrDefault_congr
    (same : ∀ key, (left key here).result = (right key there).result) (registry : Registry)
    (address : Address Value) :
    (fetchOrDefault ⟨left, registry⟩ address here).result =
      (fetchOrDefault ⟨right, registry⟩ address there).result := by
  rw [result_fetchOrDefault, result_fetchOrDefault, result_fetch_congr same, result_default,
    result_default]

end Reader

/-- A read of any kind. -/
inductive Read : Type 1 where
  /-- The bytes under a key. -/
  | bytes (key : StorageKey)
  /-- The value at an address. -/
  | value {Value : Type} (address : Address Value)
  /-- The value at an address, or its default. -/
  | valueOrDefault {Value : Type} (address : Address Value)

namespace Read

/-- What a read is for. -/
def Answer : Read → Type
  | bytes _ => Option Bytes
  | @value Value _ => Option Value
  | @valueOrDefault Value _ => Value

/-- What a read comes to at a block, or in the latest state. -/
def result (reader : Reader) (block : Option Hash) : (read : Read) → Except Error read.Answer
  | bytes key => (reader.backend key block).result
  | value address => (reader.fetch address block).result
  | valueOrDefault address => (reader.fetchOrDefault address block).result

/-- A read of any kind comes to the same where two sources give the same answers. -/
theorem result_congr {left right : Backend} {here there : Option Hash}
    (same : ∀ key, (left key here).result = (right key there).result) (registry : Registry)
    (read : Read) : read.result ⟨left, registry⟩ here = read.result ⟨right, registry⟩ there := by
  cases read with
  | bytes key => exact same key
  | value address => exact Reader.result_fetch_congr same registry address
  | valueOrDefault address => exact Reader.result_fetchOrDefault_congr same registry address

/-- What reads come to, one after the other, each at a block or in the latest state. -/
def results (reader : Reader) (reads : List (Read × Option Hash)) :
    List (Σ read : Read, Except Error read.Answer) :=
  reads.map fun step => ⟨step.1, step.1.result reader step.2⟩

end Read

/-! ### Mirrors -/

namespace Layer

/-- What is stored, as writes to a block or to the latest state. -/
def writes (layer : Layer) (block : Option Hash) : List RawWrite :=
  layer.entries.map fun (key, bytes) => ⟨block, key, bytes⟩

variable {layer : Layer} {block : Option Hash}

/-- A write stands for an entry. -/
theorem mem_writes {write : RawWrite} :
    write ∈ layer.writes block ↔
      write.block = block ∧ (write.key, write.bytes) ∈ layer.entries := by
  obtain ⟨place, key, bytes⟩ := write
  simp only [writes, List.mem_map, RawWrite.mk.injEq, Prod.exists]
  constructor
  · rintro ⟨key, bytes, listed, rfl, rfl, rfl⟩
    exact ⟨rfl, listed⟩
  · rintro ⟨rfl, listed⟩
    exact ⟨key, bytes, listed, rfl, rfl, rfl⟩

/-- All entries are written to the block. -/
theorem eq_block_of_mem_places {place : Option Hash × StorageKey}
    (listed : place ∈ (layer.writes block).map RawWrite.place) : place.1 = block := by
  obtain ⟨write, member, rfl⟩ := List.mem_map.mp listed
  exact (mem_writes.mp member).1

/-- Different entries are written to different places. -/
theorem places_nodup (apart : (layer.entries.map (·.1)).Nodup) :
    ((layer.writes block).map RawWrite.place).Nodup := by
  have places : (layer.writes block).map RawWrite.place =
      (layer.entries.map (·.1)).map fun key => (block, key) := by
    simp only [writes, List.map_map]
    rfl
  rw [places]
  exact apart.map fun left right same => (Prod.mk.inj same).2

/-- Where keys are apart, a key has the bytes that are listed with it. -/
theorem get?_eq_some_iff (apart : (layer.entries.map (·.1)).Nodup) {key : StorageKey}
    {bytes : Bytes} : layer.get? key = some bytes ↔ (key, bytes) ∈ layer.entries := by
  rw [get?, Option.map_eq_some_iff]
  constructor
  · rintro ⟨⟨other, bytes⟩, found, rfl⟩
    obtain ⟨listed, rfl⟩ := (find?_key_eq_some_iff apart).mp found
    exact listed
  · intro listed
    exact ⟨(key, bytes), (find?_key_eq_some_iff apart).mpr ⟨listed, rfl⟩, rfl⟩

end Layer

namespace Node

/-- A node lists each block once, and each key of a block once. -/
structure IsListed (node : Node) : Prop where
  /-- No block is listed twice. -/
  blocks : (node.blocks.map (·.1)).Nodup
  /-- No key of a block is listed twice. -/
  keys : ∀ entry ∈ node.blocks, (entry.2.entries.map (·.1)).Nodup

/-- What a node has, as writes: the latest final block to the latest state, and every block to
itself. -/
def writes (node : Node) : List RawWrite :=
  (match node.layer? node.latest with
    | some layer => layer.writes none
    | none => []) ++
    node.blocks.flatMap fun entry => entry.2.writes (some entry.1)

variable {node : Node}

namespace IsListed

variable (listed : node.IsListed)

include listed

/-- A block has the state that is listed with it. -/
theorem layer?_eq_some_iff {block : Hash} {layer : Layer} :
    node.layer? block = some layer ↔ (block, layer) ∈ node.blocks := by
  rw [layer?, Option.map_eq_some_iff]
  constructor
  · rintro ⟨entry, found, rfl⟩
    obtain ⟨member, rfl⟩ := mem_of_find?_key found
    exact member
  · intro member
    exact ⟨_, (find?_key_eq_some_iff listed.blocks).mpr ⟨member, rfl⟩, rfl⟩

/-- No two writes go to one place. -/
theorem places_nodup : (node.writes.map RawWrite.place).Nodup := by
  rw [writes, List.map_append, List.map_flatMap]
  refine List.Nodup.append ?_ ?_ ?_
  · cases found : node.layer? node.latest with
    | none => exact List.nodup_nil
    | some layer => exact Layer.places_nodup (listed.keys _ (listed.layer?_eq_some_iff.mp found))
  · rw [List.nodup_flatMap]
    refine ⟨fun entry member => Layer.places_nodup (listed.keys entry member), ?_⟩
    refine (List.pairwise_map.mp listed.blocks).imp ?_
    intro first second different place inFirst inSecond
    have left := Layer.eq_block_of_mem_places inFirst
    have right := Layer.eq_block_of_mem_places inSecond
    exact different (Option.some.inj (left.symm.trans right))
  · intro place inLatest inBlocks
    obtain ⟨entry, -, inBlock⟩ := List.mem_flatMap.mp inBlocks
    have named := Layer.eq_block_of_mem_places inBlock
    cases found : node.layer? node.latest with
    | none => simp [found] at inLatest
    | some layer =>
      rw [found] at inLatest
      have unnamed := Layer.eq_block_of_mem_places inLatest
      rw [unnamed] at named
      cases named

/-- The writes to a block, or to the latest state, are the entries of its state. -/
theorem mem_writes_iff {block : Option Hash} {key : StorageKey} {bytes : Bytes} :
    ⟨block, key, bytes⟩ ∈ node.writes ↔
      ∃ layer, node.layer? (block.getD node.latest) = some layer ∧
        (key, bytes) ∈ layer.entries := by
  rw [writes, List.mem_append, List.mem_flatMap]
  cases block with
  | none =>
    have elsewhere : ¬ ∃ entry ∈ node.blocks,
        (⟨none, key, bytes⟩ : RawWrite) ∈ entry.2.writes (some entry.1) := by
      rintro ⟨entry, -, inside⟩
      cases (Layer.mem_writes.mp inside).1
    rw [or_iff_left elsewhere, Option.getD_none]
    cases node.layer? node.latest <;> simp [Layer.mem_writes]
  | some block =>
    have elsewhere : (⟨some block, key, bytes⟩ : RawWrite) ∉
        (match node.layer? node.latest with
          | some layer => layer.writes none
          | none => []) := by
      cases node.layer? node.latest <;> simp [Layer.mem_writes]
    rw [or_iff_right elsewhere, Option.getD_some]
    simp only [Layer.mem_writes, Option.some.injEq, listed.layer?_eq_some_iff]
    constructor
    · rintro ⟨entry, member, rfl, inside⟩
      exact ⟨entry.2, member, inside⟩
    · rintro ⟨layer, member, inside⟩
      exact ⟨(block, layer), member, rfl, inside⟩

/-- A state in memory to which all this is written, in whatever order, has what the node has. -/
theorem get?_mirror {writes : List RawWrite} (copied : writes.Perm node.writes)
    (key : StorageKey) (block : Option Hash) :
    (MemoryState.empty.writeAll writes).get? key block = node.stored? key block := by
  have apart : (writes.map RawWrite.place).Nodup :=
    (copied.map RawWrite.place).nodup_iff.mpr listed.places_nodup
  ext bytes
  rw [MemoryState.get?_writeAll_eq_some_iff apart, copied.mem_iff, listed.mem_writes_iff, stored?,
    Option.bind_eq_some_iff]
  refine exists_congr fun layer => and_congr_right fun found => ?_
  rw [Layer.get?_eq_some_iff (listed.keys _ (listed.layer?_eq_some_iff.mp found))]

end IsListed

end Node

/-- A node and its mirror in memory are read alike. Let all that a node has be written to an empty
state, in any order: each block to itself, and the latest final block also to the latest state.
Then reads of any kind, one after the other, each of the latest state or at a block that the node
serves, come to the same over both sources and with any registry; and over the node a read of the
latest state comes to what it comes to at the latest final block. -/
theorem mirror_reads_alike {node : Node} (listed : node.IsListed) (latest : node.Serves none)
    {writes : List RawWrite} (copied : writes.Perm node.writes) (registry : Registry)
    {reads : List (Read × Option Hash)} (served : ∀ step ∈ reads, node.Serves step.2) :
    Read.results ⟨node.backend, registry⟩ reads =
        Read.results ⟨(MemoryState.empty.writeAll writes).backend, registry⟩ reads ∧
      ∀ read : Read, read.result ⟨node.backend, registry⟩ none =
        read.result ⟨node.backend, registry⟩ (some node.latest) := by
  constructor
  · refine List.map_congr_left fun step member => ?_
    have answers : ∀ key, (node.backend key step.2).result =
        ((MemoryState.empty.writeAll writes).backend key step.2).result := by
      intro key
      rw [(served step member).result_backend, ← listed.get?_mirror copied]
      rfl
    rw [Read.result_congr answers]
  · intro read
    exact Read.result_congr (Node.result_backend_none latest.head) registry read

/-- A hash of one byte, repeated. -/
def repeated (byte : UInt8) : Hash := ⟨List.replicate 32 byte, List.length_replicate⟩

/-- A node with two blocks, of which the earlier one has nothing. -/
def smallNode : Node where
  latest := repeated 2
  blocks := [(repeated 1, .empty), (repeated 2, ⟨[(⟨[1]⟩, [5]), (⟨[2]⟩, [])]⟩)]
  refusal? _ := none

/-- Its mirror, written from the last pair to the first, is read like the node. -/
theorem mirror_reads_alike_smallNode :
    let mirror := MemoryState.empty.writeAll smallNode.writes.reverse
    let reads : List (Read × Option Hash) :=
      [(.bytes ⟨[1]⟩, none), (.valueOrDefault (Slot.mk .blockNumber ()).address, none),
        (.bytes ⟨[1]⟩, some (repeated 1))]
    smallNode.IsListed ∧ (∀ step ∈ reads, smallNode.Serves step.2) ∧
      Read.results ⟨smallNode.backend, .builtin⟩ reads =
        Read.results ⟨mirror.backend, .builtin⟩ reads := by
  intro mirror reads
  have listed : smallNode.IsListed := ⟨by decide, by decide⟩
  have latest : smallNode.Serves none := ⟨rfl, rfl, by decide⟩
  have earlier : smallNode.Serves (some (repeated 1)) := ⟨rfl, rfl, by decide⟩
  have served : ∀ step ∈ reads, smallNode.Serves step.2 := by
    simp only [reads, List.forall_mem_cons, List.not_mem_nil, false_imp_iff, implies_true, and_true]
    exact ⟨latest, latest, earlier⟩
  exact ⟨listed, served, (mirror_reads_alike listed latest
    (List.reverse_perm smallNode.writes) .builtin served).1⟩

end EnclaveChain
