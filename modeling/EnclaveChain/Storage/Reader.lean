import EnclaveChain.Storage.Address
import EnclaveChain.Storage.State

/-!
# Typed reads

A read derives the key of an address, asks a source of stored bytes once, and decodes all of what
it gets. A read with default falls back to the default of the registry when, and only when,
nothing is stored.
-/
namespace EnclaveChain

/-- A source of stored bytes and the registry that describes them. -/
structure Reader where
  /-- The source. -/
  backend : Backend
  /-- The registry. -/
  registry : Registry

namespace Address

/-- The storage key of an address, with a record of it. -/
def keyTraced {Value : Type} (address : Address Value) (registry : Registry) : Traced StorageKey :=
  StorageKey.deriveTraced registry address.pallet address.item address.keys

/-- The value of stored bytes, which must be used up. -/
def decodeStored {Value : Type} (address : Address Value) (bytes : Bytes) : Except Error Value :=
  match address.schema.decodeAll bytes with
  | .ok value => .ok value
  | .error fault => .error (.decode address.pallet address.item fault)

/-- The value of default bytes, which must be used up. -/
def decodeDefault {Value : Type} (address : Address Value) (bytes : Bytes) : Except Error Value :=
  match address.schema.decodeAll bytes with
  | .ok value => .ok value
  | .error fault => .error (.defaultDecode address.pallet address.item fault)

end Address

namespace Reader

/-- The value at an address, or nothing when none is stored. -/
def fetch {Value : Type} (reader : Reader) (address : Address Value) (block : Option Hash) :
    Traced (Option Value) := do
  let key ← address.keyTraced reader.registry
  Traced.record (.fetching address.pallet address.item block)
  match ← reader.backend key block with
  | some bytes => Traced.ofExcept ((address.decodeStored bytes).map some)
  | none =>
    Traced.record (.notPresent address.pallet address.item)
    return none

/-- The default of an address. -/
def default {Value : Type} (reader : Reader) (address : Address Value) : Traced Value := do
  let entry ← Traced.ofExcept (reader.registry.storageItem address.pallet address.item)
  match entry.default? with
  | none => Traced.ofExcept (.error (.noDefault address.pallet address.item))
  | some bytes =>
    Traced.record (.usingDefault address.pallet address.item)
    Traced.ofExcept (address.decodeDefault bytes)

/-- The value at an address, or the default of its item when none is stored. -/
def fetchOrDefault {Value : Type} (reader : Reader) (address : Address Value)
    (block : Option Hash) : Traced Value := do
  match ← reader.fetch address block with
  | some value => return value
  | none => reader.default address

end Reader

end EnclaveChain
