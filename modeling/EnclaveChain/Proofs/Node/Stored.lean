import EnclaveChain.Node.Basic
import EnclaveChain.Proofs.Storage.Outcome

/-!
# What a node has

A node that refuses no request and knows a block answers every question about this block with the
bytes that it has there, or with nothing. The latest state is that of the latest final block.
-/
namespace EnclaveChain.Node

variable {node : Node}

/-- The state of a block, if the node knows the block. -/
def layer? (node : Node) (block : Hash) : Option Layer :=
  (node.blocks.find? fun entry => entry.1 = block).map (·.2)

/-- What a node has under a key at a block, or at the latest final one. -/
def stored? (node : Node) (key : StorageKey) (block : Option Hash) : Option Bytes :=
  (node.layer? (block.getD node.latest)).bind (·.get? key)

/-- A node answers what it is asked about a block, or about the latest final one. -/
structure Serves (node : Node) (block : Option Hash) : Prop where
  /-- It names the latest final block. -/
  head : node.refusal? .finalizedHead = none
  /-- It gives the bytes of keys. -/
  storage : node.refusal? .storage = none
  /-- It knows the block. -/
  known : block.getD node.latest ∈ node.blocks.map (·.1)

/-- A block that is known has a state. -/
theorem exists_layer {block : Hash} (known : block ∈ node.blocks.map (·.1)) :
    ∃ layer, node.layer? block = some layer := by
  obtain ⟨entry, listed, rfl⟩ := List.mem_map.mp known
  have found : (node.blocks.find? fun other => other.1 = entry.1).isSome :=
    List.find?_isSome.mpr ⟨entry, listed, by simp⟩
  exact Option.isSome_iff_exists.mp (by rw [layer?, Option.isSome_map]; exact found)

/-- The bytes of a key at a block that is known. -/
theorem storageAt_eq {block : Hash} {layer : Layer} (permitted : node.refusal? .storage = none)
    (found : node.layer? block = some layer) (key : StorageKey) :
    node.storageAt block key = .ok (layer.get? key) := by
  obtain ⟨entry, listed, rfl⟩ := Option.map_eq_some_iff.mp found
  simp only [storageAt, permit, permitted, listed]
  rfl

/-- An answer about a block is the bytes of the key there. -/
theorem result_backend_some (key : StorageKey) (block : Hash) :
    (node.backend key (some block)).result = node.storageAt block key := by
  simp only [backend, Traced.result_bind, Traced.result_pure, Traced.result_record,
    Traced.result_ofExcept]
  cases node.storageAt block key <;> rfl

/-- The latest state is that of the latest final block. -/
theorem result_backend_none (permitted : node.refusal? .finalizedHead = none) (key : StorageKey) :
    (node.backend key none).result = (node.backend key (some node.latest)).result := by
  have head : node.finalizedHead = .ok node.latest := by
    simp only [finalizedHead, permit, permitted]
    rfl
  simp only [backend, Traced.result_bind, Traced.result_pure, Traced.result_ofExcept, head]

/-- A node that serves a block answers with what it has there. -/
theorem Serves.result_backend {block : Option Hash} (serves : node.Serves block)
    (key : StorageKey) : (node.backend key block).result = .ok (node.stored? key block) := by
  obtain ⟨layer, found⟩ := exists_layer serves.known
  have named : (node.backend key block).result =
      (node.backend key (some (block.getD node.latest))).result := by
    cases block with
    | some block => rfl
    | none => exact result_backend_none serves.head key
  rw [named, result_backend_some, storageAt_eq serves.storage found, stored?, found,
    Option.bind_some]

end EnclaveChain.Node
