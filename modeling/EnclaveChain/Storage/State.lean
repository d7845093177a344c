import EnclaveChain.Storage.Trace

/-!
# State in memory

A state keeps the latest value of each key and, apart from those, the values of each block. A later
write to a place hides an earlier one and touches no other place.
-/
namespace EnclaveChain

/-- A source of stored bytes: what it has for a key at a block, or at the latest one. -/
abbrev Backend := StorageKey → Option Hash → Traced (Option Bytes)

/-- The bytes stored under some keys. -/
structure Layer where
  /-- Each key once, with its bytes. -/
  entries : List (StorageKey × Bytes)
deriving DecidableEq

namespace Layer

/-- Nothing is stored. -/
def empty : Layer := ⟨[]⟩

/-- The bytes of a key. -/
def get? (layer : Layer) (key : StorageKey) : Option Bytes :=
  (layer.entries.find? fun entry => entry.1 = key).map (·.2)

/-- Stores bytes under a key in place of those it had. -/
def insert (layer : Layer) (key : StorageKey) (bytes : Bytes) : Layer :=
  ⟨(key, bytes) :: layer.entries.filter fun entry => entry.1 ≠ key⟩

/-- The bytes of a key after a write. -/
@[simp]
theorem get?_insert (layer : Layer) (key other : StorageKey) (bytes : Bytes) :
    (layer.insert key bytes).get? other = if key = other then some bytes else layer.get? other := by
  by_cases same : key = other
  · simp [insert, get?, same]
  · have hidden : ∀ entry : StorageKey × Bytes,
        (!decide (entry.1 = key) && decide (entry.1 = other)) = decide (entry.1 = other) := by
      intro entry
      by_cases found : entry.1 = other
      · simp [found, Ne.symm same]
      · simp [found]
    simp [insert, get?, same, List.find?_filter, hidden]

end Layer

/-- A state held in memory. -/
structure MemoryState where
  /-- The latest values. -/
  latest : Layer
  /-- The values at blocks, each block once. -/
  blocks : List (Hash × Layer)
deriving DecidableEq

namespace MemoryState

/-- The state in which nothing is stored. -/
def empty : MemoryState := ⟨.empty, []⟩

/-- The values at a block; a block that was never written to has none. -/
def layerAt (state : MemoryState) (block : Hash) : Layer :=
  match state.blocks.find? fun entry => entry.1 = block with
  | some entry => entry.2
  | none => .empty

/-- The bytes stored under a key. -/
def get? (state : MemoryState) (key : StorageKey) : Option Hash → Option Bytes
  | none => state.latest.get? key
  | some block => (state.layerAt block).get? key

/-- Stores bytes under a key at a block, or at the latest one. -/
def insert (state : MemoryState) (block : Option Hash) (key : StorageKey) (bytes : Bytes) :
    MemoryState :=
  match block with
  | none => ⟨state.latest.insert key bytes, state.blocks⟩
  | some block =>
    ⟨state.latest, (block, (state.layerAt block).insert key bytes) ::
      state.blocks.filter fun entry => entry.1 ≠ block⟩

/-- A write changes its own place and no other. -/
@[simp]
theorem get?_insert (state : MemoryState) (block place : Option Hash) (key other : StorageKey)
    (bytes : Bytes) :
    (state.insert block key bytes).get? other place =
      if block = place ∧ key = other then some bytes else state.get? other place := by
  cases block with
  | none => cases place <;> simp [insert, get?, layerAt]
  | some block =>
    cases place with
    | none => simp [insert, get?]
    | some place =>
      by_cases same : block = place
      · simp [insert, get?, layerAt, same]
      · have hidden : ∀ entry : Hash × Layer,
            (!decide (entry.1 = block) && decide (entry.1 = place)) = decide (entry.1 = place) := by
          intro entry
          by_cases found : entry.1 = place
          · simp [found, Ne.symm same]
          · simp [found]
        simp [insert, get?, layerAt, same, List.find?_filter, hidden]

/-- The state as a source of stored bytes. -/
def backend (state : MemoryState) : Backend := fun key block =>
  ⟨.ok (state.get? key block), [.memoryLookup key block]⟩

end MemoryState

end EnclaveChain
