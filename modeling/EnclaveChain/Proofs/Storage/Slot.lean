import EnclaveChain.Proofs.Scale.Exact
import EnclaveChain.Proofs.Storage.Hashed
import EnclaveChain.Storage.Item
import Mathlib.Data.List.Nodup

/-!
# Places of slots

Every slot has a key in the built-in registry, its place, and no place is the beginning of the
place of another slot. The first 32 bytes show the item, because the hashes of the names of the
registry differ, and after them the arguments can be read back one by one, because every hasher of
the registry keeps its argument.
-/
namespace EnclaveChain

open Scale

/-! ### Arguments -/

namespace KeyLayout

/-- Number of arguments. -/
def arity {α : Type} : KeyLayout α → Nat
  | .none => 0
  | .one _ => 1
  | .two _ _ => 2

/-- Whether all vectors in the arguments have fewer than `2 ^ 32` items. -/
def fits : {α : Type} → KeyLayout α → α → Bool
  | _, .none, () => true
  | _, .one key, value => key.fits value
  | _, .two first second, (left, right) => first.fits left && second.fits right

/-- There is one encoding for each argument. -/
@[simp]
theorem length_encode {α : Type} (layout : KeyLayout α) (key : α) :
    (layout.encode key).length = layout.arity := by
  cases layout <;> rfl

/-- Arguments are read back one by one from their hashed forms, so these show them and no two of
them begin alike. -/
theorem eq_of_hashed_prefix {α : Type} (layout : KeyLayout α) {hashers : List Hasher}
    (counted : hashers.length = layout.arity) (keep : ∀ hasher ∈ hashers, hasher.keepsKey)
    {left right : α} (leftFits : layout.fits left) (rightFits : layout.fits right)
    (before : StorageKey.hashed hashers (layout.encode left) <+:
      StorageKey.hashed hashers (layout.encode right)) : left = right := by
  obtain ⟨rest, same⟩ := before
  cases layout with
  | none => rfl
  | one key =>
    obtain ⟨hasher, rfl⟩ := List.length_eq_one_iff.mp counted
    have kept : hasher.keepsKey := keep hasher List.mem_cons_self
    simp only [encode, StorageKey.hashed_cons, StorageKey.hashed_nil, List.append_assoc] at same
    exact (key.encode_append_inj leftFits rightFits
      (Hasher.append_eq_of_apply_append_eq kept same)).1
  | two first second =>
    obtain ⟨hasher, other, rfl⟩ := List.length_eq_two.mp counted
    have kept : hasher.keepsKey := keep hasher List.mem_cons_self
    have otherKept : other.keepsKey := keep other (List.mem_cons_of_mem _ List.mem_cons_self)
    obtain ⟨leftFirst, leftSecond⟩ := left
    obtain ⟨rightFirst, rightSecond⟩ := right
    rw [fits, Bool.and_eq_true] at leftFits rightFits
    simp only [encode, StorageKey.hashed_cons, StorageKey.hashed_nil, List.append_assoc] at same
    -- the first argument is found behind its hash, and what follows it is the second one
    obtain ⟨rfl, later⟩ := first.encode_append_inj leftFits.1 rightFits.1
      (Hasher.append_eq_of_apply_append_eq kept same)
    obtain ⟨rfl, -⟩ := second.encode_append_inj leftFits.2 rightFits.2
      (Hasher.append_eq_of_apply_append_eq otherKept later)
    rfl

end KeyLayout

/-! ### Items in the built-in registry -/

namespace Registry

/-- The names that the storage keys of a registry are hashed from. -/
def hashedNames (registry : Registry) : List String :=
  (registry.pallets.flatMap fun pallet => pallet.name :: pallet.storage.map (·.name)).eraseDups

end Registry

/-- The hashes of the names of the registry differ. -/
theorem builtin_nameHashes_nodup :
    (Registry.builtin.hashedNames.map fun name => Hash.XxHash.twox128 (Hex.utf8 name)).Nodup := by
  decide +kernel

namespace StorageItem

/-- The hashers of the arguments of an item. -/
def hashers (item : StorageItem) : List Hasher :=
  match Registry.builtin.storageItem item.layout.pallet.name item.layout.name with
  | .ok entry => entry.hashers
  | .error _ => []

/-- The bytes that all places of an item begin with. -/
def stem (item : StorageItem) : Bytes :=
  StorageKey.itemStem item.layout.pallet.name item.layout.name

/-- Every item is listed under its name. -/
theorem storageItem_eq (item : StorageItem) :
    ∃ entry, Registry.builtin.storageItem item.layout.pallet.name item.layout.name = .ok entry ∧
      entry.name = item.layout.name ∧ entry.hashers = item.hashers := by
  cases item <;> exact ⟨_, rfl, rfl, rfl⟩

/-- Every item has a hasher for each argument. -/
theorem length_hashers (item : StorageItem) : item.hashers.length = item.layout.keys.arity := by
  cases item <;> rfl

/-- All hashers of items keep their arguments. -/
theorem keepsKey_of_mem_hashers (item : StorageItem) :
    ∀ hasher ∈ item.hashers, hasher.keepsKey := by
  have all : ∀ item ∈ StorageItem.all, ∀ hasher ∈ item.hashers, hasher.keepsKey := by decide +kernel
  exact all item item.mem_all

/-- The names of pallets and items are names of the registry. -/
theorem names_mem (item : StorageItem) :
    item.layout.pallet.name ∈ Registry.builtin.hashedNames ∧
      item.layout.name ∈ Registry.builtin.hashedNames := by
  have all : ∀ item ∈ StorageItem.all, item.layout.pallet.name ∈ Registry.builtin.hashedNames ∧
      item.layout.name ∈ Registry.builtin.hashedNames := by decide +kernel
  exact all item item.mem_all

/-- No item has the pallet and the name of another. -/
theorem names_nodup :
    (StorageItem.all.map fun item => (item.layout.pallet.name, item.layout.name)).Nodup := by
  decide +kernel

/-- The identity of a workload has no vectors. -/
theorem fits_workloadId (id : WorkloadId) : WorkloadId.schema.fits id := by
  obtain ⟨kind, number⟩ := id
  cases kind <;> rfl

/-- The arguments of items have no vectors. -/
theorem fits_key (item : StorageItem) (key : item.layout.Key) : item.layout.keys.fits key := by
  cases item with
  | contracts => exact fits_workloadId key
  | proofs => exact Bool.and_eq_true_iff.mpr ⟨fits_workloadId key.1, rfl⟩
  | _ => rfl

/-- A stem shows its item. -/
theorem stem_injective : Function.Injective stem := by
  intro left right same
  have distinct := List.inj_on_of_nodup_map builtin_nameHashes_nodup
  obtain ⟨pallets, names⟩ := List.append_inj same (by simp)
  have palletSame := distinct left.names_mem.1 right.names_mem.1 pallets
  have nameSame := distinct left.names_mem.2 right.names_mem.2 names
  exact List.inj_on_of_nodup_map names_nodup left.mem_all right.mem_all
    (Prod.ext palletSame nameSame)

/-- All stems have one length. -/
@[simp]
theorem length_stem (item : StorageItem) : item.stem.length = 32 := by
  simp [stem, StorageKey.itemStem]

end StorageItem

/-! ### Places -/

namespace Slot

/-- The key of a slot in the built-in registry. -/
def place (slot : Slot) : StorageKey :=
  ⟨slot.item.stem ++
    StorageKey.hashed slot.item.hashers (slot.item.layout.keys.encode slot.key)⟩

/-- The address of a slot has a key, which is its place. -/
theorem address_key (slot : Slot) : slot.address.key Registry.builtin = .ok slot.place := by
  obtain ⟨entry, listed, named, hashers⟩ := slot.item.storageItem_eq
  have counted : slot.item.hashers.length = (slot.item.layout.keys.encode slot.key).length := by
    rw [slot.item.length_hashers, KeyLayout.length_encode]
  rw [Address.key, StorageKey.derive]
  simp only [address, listed, named, hashers, counted, ↓reduceIte]
  rfl

/-- No place is the beginning of the place of another slot. -/
theorem eq_of_place_prefix {left right : Slot} (before : left.place.bytes <+: right.place.bytes) :
    left = right := by
  obtain ⟨rest, same⟩ := before
  obtain ⟨item, leftKey⟩ := left
  obtain ⟨other, rightKey⟩ := right
  simp only [place, List.append_assoc] at same
  obtain ⟨stems, same⟩ := List.append_inj same (by simp)
  obtain rfl := StorageItem.stem_injective stems
  have keysSame := item.layout.keys.eq_of_hashed_prefix item.length_hashers
    item.keepsKey_of_mem_hashers (item.fits_key leftKey) (item.fits_key rightKey) ⟨rest, same⟩
  rw [keysSame]

end Slot

/-- Addresses of slots always have keys, and when the key of one begins the key of another, in
particular when both are equal, they are of one item and have the same arguments. -/
theorem slot_keys_prefix_free (left right : Slot) :
    ∃ leftKey rightKey, left.address.key Registry.builtin = .ok leftKey ∧
      right.address.key Registry.builtin = .ok rightKey ∧
      (leftKey.bytes <+: rightKey.bytes → left = right) :=
  ⟨left.place, right.place, left.address_key, right.address_key, Slot.eq_of_place_prefix⟩

/-- Apps and GPU jobs have items of one name with one argument, and still keep their prices of a
service level apart. -/
theorem slot_keys_prefix_free_prices :
    ∃ appKey gpuKey, (Slot.mk .appPrices (1 : UInt8)).address.key Registry.builtin = .ok appKey ∧
      (Slot.mk .gpuPrices (1 : UInt8)).address.key Registry.builtin = .ok gpuKey ∧
      ¬ appKey.bytes <+: gpuKey.bytes := by
  obtain ⟨appKey, gpuKey, appListed, gpuListed, apart⟩ :=
    slot_keys_prefix_free (.mk .appPrices (1 : UInt8)) (.mk .gpuPrices (1 : UInt8))
  refine ⟨appKey, gpuKey, appListed, gpuListed, ?_⟩
  intro before
  cases congrArg Slot.item (apart before)

end EnclaveChain
