import EnclaveChain.Storage.Reader

/-!
# What a typed read comes to

A read leaves records on its way, but what it comes to depends on three things only: the key of the
address, the answer of the source for that key, and the registry where a default is asked for. The
equations below say how, without the records, so that nothing about reads needs to look at the
order in which they are done.
-/
namespace EnclaveChain

namespace Traced

variable {α β : Type}

/-- An operation that leaves no record comes to what it was made from. -/
@[simp]
theorem result_ofExcept (result : Except Error α) : (ofExcept result).result = result := rfl

/-- A value comes to itself. -/
@[simp]
theorem result_pure (value : α) : (pure value : Traced α).result = .ok value := rfl

/-- A record comes to nothing else. -/
@[simp]
theorem result_record (entry : LogRecord) : (record entry).result = .ok () := rfl

/-- One operation after another comes to what the second one makes of the value of the first. -/
theorem result_bind (first : Traced α) (next : α → Traced β) :
    (first >>= next).result =
      match first.result with
      | .error fault => .error fault
      | .ok value => (next value).result := by
  change (first.andThen next).result = _
  rw [andThen]
  cases first.result <;> rfl

end Traced

/-- A key is derived only for an item that is found. -/
theorem StorageKey.exists_storageItem {registry : Registry} {pallet item : String}
    {keys : List Bytes} {key : StorageKey} (derived : derive registry pallet item keys = .ok key) :
    ∃ entry, registry.storageItem pallet item = .ok entry := by
  rw [derive] at derived
  cases found : registry.storageItem pallet item with
  | error fault =>
    rw [found] at derived
    cases derived
  | ok entry => exact ⟨entry, rfl⟩

/-- A key with a record of it is the key. -/
@[simp]
theorem Address.result_keyTraced {Value : Type} (address : Address Value) (registry : Registry) :
    (address.keyTraced registry).result = address.key registry := by
  rw [keyTraced, key, StorageKey.deriveTraced, Traced.andThen, Traced.result_ofExcept]
  cases StorageKey.derive registry address.pallet address.item address.keys <;> rfl

namespace Reader

variable {Value : Type} (reader : Reader) (address : Address Value) (block : Option Hash)

/-- A read decodes what the source has for the key of the address. -/
theorem result_fetch :
    (reader.fetch address block).result =
      match address.key reader.registry with
      | .error fault => .error fault
      | .ok key =>
        match (reader.backend key block).result with
        | .error fault => .error fault
        | .ok none => .ok none
        | .ok (some bytes) => (address.decodeStored bytes).map some := by
  rw [fetch, Traced.result_bind, Address.result_keyTraced]
  cases address.key reader.registry with
  | error fault => rfl
  | ok key =>
    simp only [Traced.result_bind]
    cases (reader.backend key block).result with
    | error fault => rfl
    | ok found => cases found <;> rfl

/-- A default is what the default bytes of the entry decode to. -/
theorem result_default :
    (reader.default address).result =
      match reader.registry.storageItem address.pallet address.item with
      | .error fault => .error fault
      | .ok entry =>
        match entry.default? with
        | none => .error (.noDefault address.pallet address.item)
        | some bytes => address.decodeDefault bytes := by
  rw [default, Traced.result_bind, Traced.result_ofExcept]
  cases reader.registry.storageItem address.pallet address.item with
  | error fault => rfl
  | ok entry =>
    simp only
    cases entry.default? <;> rfl

/-- A read with default goes on where a read comes to nothing, and nowhere else. -/
theorem result_fetchOrDefault :
    (reader.fetchOrDefault address block).result =
      match (reader.fetch address block).result with
      | .error fault => .error fault
      | .ok (some value) => .ok value
      | .ok none => (reader.default address).result := by
  rw [fetchOrDefault, Traced.result_bind]
  cases (reader.fetch address block).result with
  | error fault => rfl
  | ok found => cases found <;> rfl

end Reader

end EnclaveChain
