import EnclaveChain.Proofs.Registry.Consistency
import EnclaveChain.Proofs.Registry.Lookup
import EnclaveChain.Proofs.Registry.Reload

/-!
# What lookups reach

A lookup goes through a list and takes the first entry that fits, so an entry that stands behind
another one of its name or index is never found. In a registry that loads there is no such entry:
a lookup finds an entry exactly when the registry lists it under what is asked for
(`loaded_registry_finds_entries`).
-/
namespace EnclaveChain

/-- An item offers its default, which has bytes, exactly when its absence stands for one. -/
structure StorageEntry.OffersDefault (entry : StorageEntry) : Prop where
  /-- There is a default exactly when absence stands for one. -/
  offers : entry.default?.isSome ↔ entry.modifier = .default
  /-- It is the declared one and has bytes. -/
  bytes : ∀ {bytes : Bytes}, entry.default? = some bytes → bytes = entry.default ∧ bytes ≠ []

/-- Entries of a pallet are found exactly by their names and indices. -/
structure PalletEntry.FindsEntries (pallet : PalletEntry) : Prop where
  /-- Calls by name. -/
  call? : ∀ {name : String} {entry : CallEntry},
    pallet.call? name = some entry ↔ entry ∈ pallet.calls ∧ entry.name = name
  /-- Calls by index. -/
  callAt? : ∀ {index : UInt8} {entry : CallEntry},
    pallet.callAt? index = some entry ↔ entry ∈ pallet.calls ∧ entry.index = index
  /-- Items by name. -/
  item? : ∀ {name : String} {entry : StorageEntry},
    pallet.item? name = some entry ↔ entry ∈ pallet.storage ∧ entry.name = name
  /-- Items offer the defaults they should. -/
  defaults : ∀ entry ∈ pallet.storage, entry.OffersDefault

/-- Entries of a registry are found exactly by their names and indices. -/
structure Registry.FindsEntries (registry : Registry) : Prop where
  /-- Pallets by name. -/
  pallet : ∀ {name : String} {entry : PalletEntry},
    registry.pallet name = .ok entry ↔ entry ∈ registry.pallets ∧ entry.name = name
  /-- Pallets by index. -/
  palletAt? : ∀ {index : UInt8} {entry : PalletEntry},
    registry.palletAt? index = some entry ↔ entry ∈ registry.pallets ∧ entry.index = index
  /-- Calls by the index of their pallet and their own. -/
  callAt : ∀ {first second : UInt8} {owner : PalletEntry} {entry : CallEntry},
    registry.callAt first second = .ok (owner, entry) ↔
      (owner ∈ registry.pallets ∧ owner.index = first) ∧
        entry ∈ owner.calls ∧ entry.index = second
  /-- Items by the name of their pallet and their own. -/
  storageItem : ∀ {pallet item : String} {entry : StorageEntry},
    registry.storageItem pallet item = .ok entry ↔
      ∃ owner, (owner ∈ registry.pallets ∧ owner.name = pallet) ∧
        entry ∈ owner.storage ∧ entry.name = item
  /-- Every pallet finds its own. -/
  inside : ∀ entry ∈ registry.pallets, entry.FindsEntries

/-- A consistent item offers the default it should. -/
theorem StorageEntry.IsConsistent.offersDefault {entry : StorageEntry}
    (consistent : entry.IsConsistent) : entry.OffersDefault := by
  cases modifier : entry.modifier with
  | optional => constructor <;> simp [default?, modifier]
  | default =>
    constructor
    · simp [default?, modifier]
    · rintro bytes offered
      obtain rfl : entry.default = bytes := by simpa [default?, modifier] using offered
      exact ⟨rfl, consistent.defaultBytes modifier⟩

/-- A consistent pallet finds its entries. -/
theorem PalletEntry.IsConsistent.findsEntries {pallet : PalletEntry}
    (consistent : pallet.IsConsistent) : pallet.FindsEntries where
  call? := find?_key_eq_some_iff consistent.callNames
  callAt? := find?_key_eq_some_iff consistent.callIndices
  item? := find?_key_eq_some_iff consistent.itemNames
  defaults entry member := (consistent.items entry member).offersDefault

namespace Registry

/-- The pallet that is found is the first one of its name. -/
theorem pallet_eq_ok_iff {registry : Registry} {name : String} {entry : PalletEntry} :
    registry.pallet name = .ok entry ↔ registry.pallet? name = some entry := by
  rw [pallet]
  cases registry.pallet? name <;> simp

/-- A consistent registry finds its entries. -/
theorem IsConsistent.findsEntries {registry : Registry} (consistent : registry.IsConsistent) :
    registry.FindsEntries := by
  have named : ∀ {name : String} {entry : PalletEntry}, registry.pallet? name = some entry ↔
      entry ∈ registry.pallets ∧ entry.name = name :=
    find?_key_eq_some_iff consistent.palletNames
  have numbered : ∀ {index : UInt8} {entry : PalletEntry}, registry.palletAt? index = some entry ↔
      entry ∈ registry.pallets ∧ entry.index = index :=
    find?_key_eq_some_iff consistent.palletIndices
  have inside : ∀ entry ∈ registry.pallets, entry.FindsEntries := fun entry member =>
    (consistent.pallets entry member).findsEntries
  constructor
  · intro name entry
    rw [pallet_eq_ok_iff, named]
  · exact numbered
  · intro first second owner entry
    rw [callAt_eq_ok_iff, numbered]
    exact and_congr_right fun listed => (inside owner listed.1).callAt?
  · intro pallet item entry
    rw [storageItem_eq_ok_iff]
    refine exists_congr fun owner => ?_
    rw [named]
    exact and_congr_right fun listed => (inside owner listed.1).item?
  · exact inside

end Registry

/-- In a registry that is loaded from a text, a pallet, a call or an item is found exactly when it
is listed and has the name or the index that is asked for. So every entry is reached by its own
name and its own index, and nothing else is reached by them. An item offers a default exactly when
its absence stands for one, and this default has bytes. -/
theorem loaded_registry_finds_entries {text : String} {registry : Registry}
    (loaded : Registry.load text = .ok registry) : registry.FindsEntries := by
  obtain ⟨-, valid⟩ := (Registry.load_eq_ok_iff text registry).mp loaded
  exact (Registry.validate_eq_ok_iff.mp valid).findsEntries

/-- The text of the built-in registry loads, and each of its pallets is reached by its index. -/
theorem loaded_registry_finds_entries_builtin :
    Registry.load Registry.builtin.text = .ok .builtin ∧
      ∀ pallet ∈ Registry.builtin.pallets,
        Registry.builtin.palletAt? pallet.index = some pallet ∧
        ∀ call ∈ pallet.calls,
          Registry.builtin.callAt pallet.index call.index = .ok (pallet, call) := by
  have loaded : Registry.load Registry.builtin.text = .ok .builtin :=
    (Registry.load_eq_ok_iff _ _).mpr ⟨Registry.parse_text _, by decide +kernel⟩
  have finds := loaded_registry_finds_entries loaded
  refine ⟨loaded, fun pallet member => ⟨finds.palletAt?.mpr ⟨member, rfl⟩, ?_⟩⟩
  intro call inside
  exact finds.callAt.mpr ⟨⟨member, rfl⟩, inside, rfl⟩

end EnclaveChain
