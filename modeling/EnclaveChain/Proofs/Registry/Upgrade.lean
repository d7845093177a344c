import EnclaveChain.Proofs.Registry.Consistency
import EnclaveChain.Proofs.Registry.Lookup
import EnclaveChain.Proofs.Storage.Outcome

/-!
# Registries that grow

When a runtime is upgraded its registry may gain pallets, calls and items, and may list them in
another order. Lookups take the first entry that fits, so they keep their answers because a
consistent registry has no second entry that fits. Keys, descriptions of calls and typed reads are
built on two lookups, of an item by names and of a call by indices, and follow them.
-/
namespace EnclaveChain

/-- A pallet that has all that another one has, in any order. -/
structure PalletEntry.Extends (new old : PalletEntry) : Prop where
  /-- The name is the same. -/
  name : new.name = old.name
  /-- The index is the same. -/
  index : new.index = old.index
  /-- No call is missing. -/
  calls : old.calls ⊆ new.calls
  /-- No item is missing. -/
  storage : old.storage ⊆ new.storage

/-- A call with the name and the index of its pallet, without the rest of the pallet. -/
def CallEntry.placed (found : PalletEntry × CallEntry) : String × UInt8 × CallEntry :=
  (found.1.name, found.1.index, found.2)

namespace Registry

/-- A registry that has all that another one has, in any order. -/
def Extends (new old : Registry) : Prop :=
  ∀ pallet ∈ old.pallets, ∃ other ∈ new.pallets, other.Extends pallet

/-- What the first registry answers, the second one answers too. -/
structure KeepsAnswers (old new : Registry) : Prop where
  /-- Items are found as they were. -/
  storageItem : ∀ {pallet item : String} {entry : StorageEntry},
    old.storageItem pallet item = .ok entry → new.storageItem pallet item = .ok entry
  /-- The keys that the keys of an item begin with are the same. -/
  ofItem : ∀ {pallet item : String} {key : StorageKey},
    StorageKey.ofItem old pallet item = .ok key → StorageKey.ofItem new pallet item = .ok key
  /-- The keys of entries are the same. -/
  derive : ∀ {pallet item : String} {keys : List Bytes} {key : StorageKey},
    StorageKey.derive old pallet item keys = .ok key →
      StorageKey.derive new pallet item keys = .ok key
  /-- Calls are found as they were, in a pallet of the same name and index. -/
  callAt : ∀ {pallet call : UInt8} {owner : PalletEntry} {entry : CallEntry},
    old.callAt pallet call = .ok (owner, entry) →
      ∃ other : PalletEntry, new.callAt pallet call = .ok (other, entry) ∧
        other.name = owner.name ∧ other.index = owner.index
  /-- Calls are described as they were. -/
  describe : ∀ {call : RuntimeCall} {names : String × String},
    call.describe old = .ok names → call.describe new = .ok names
  /-- A read of an address that has a key comes to the same and leaves the same records. -/
  fetch : ∀ {Value : Type} {address : Address Value} {key : StorageKey},
    address.key old = .ok key → ∀ (backend : Backend) (block : Option Hash),
      Reader.fetch ⟨backend, new⟩ address block = Reader.fetch ⟨backend, old⟩ address block
  /-- So does a read with default. -/
  fetchOrDefault : ∀ {Value : Type} {address : Address Value} {key : StorageKey},
    address.key old = .ok key → ∀ (backend : Backend) (block : Option Hash),
      Reader.fetchOrDefault ⟨backend, new⟩ address block =
        Reader.fetchOrDefault ⟨backend, old⟩ address block

/-- Two registries give the same answers, errors included. -/
structure SameAnswers (old new : Registry) : Prop where
  /-- The same items are found. -/
  storageItem : ∀ pallet item : String, new.storageItem pallet item = old.storageItem pallet item
  /-- The keys that the keys of an item begin with are the same. -/
  ofItem : ∀ pallet item : String,
    StorageKey.ofItem new pallet item = StorageKey.ofItem old pallet item
  /-- The keys of entries are the same. -/
  derive : ∀ (pallet item : String) (keys : List Bytes),
    StorageKey.derive new pallet item keys = StorageKey.derive old pallet item keys
  /-- The same calls are found, in pallets of the same name and index. -/
  callAt : ∀ pallet call : UInt8,
    (new.callAt pallet call).map CallEntry.placed = (old.callAt pallet call).map CallEntry.placed
  /-- Calls are described alike. -/
  describe : ∀ call : RuntimeCall, call.describe new = call.describe old
  /-- A read comes to the same and leaves the same records. -/
  fetch : ∀ {Value : Type} (address : Address Value) (backend : Backend) (block : Option Hash),
    Reader.fetch ⟨backend, new⟩ address block = Reader.fetch ⟨backend, old⟩ address block
  /-- So does a read with default. -/
  fetchOrDefault : ∀ {Value : Type} (address : Address Value) (backend : Backend)
      (block : Option Hash),
    Reader.fetchOrDefault ⟨backend, new⟩ address block =
      Reader.fetchOrDefault ⟨backend, old⟩ address block

end Registry

/-! ### Lookups of one entry -/

namespace PalletEntry

variable {new old : PalletEntry}

/-- An item of a pallet is found in a consistent one that extends it. -/
theorem Extends.item? (grown : new.Extends old) (consistent : new.IsConsistent) {name : String}
    {entry : StorageEntry} (found : old.item? name = some entry) :
    new.item? name = some entry := by
  obtain ⟨member, rfl⟩ := mem_of_find?_key found
  exact find?_eq_some_of_mem consistent.itemNames (grown.storage member)

/-- A call of a pallet is found in a consistent one that extends it. -/
theorem Extends.callAt? (grown : new.Extends old) (consistent : new.IsConsistent) {index : UInt8}
    {entry : CallEntry} (found : old.callAt? index = some entry) :
    new.callAt? index = some entry := by
  obtain ⟨member, rfl⟩ := mem_of_find?_key found
  exact find?_eq_some_of_mem consistent.callIndices (grown.calls member)

/-- Two consistent pallets that list the same in different order. -/
structure Reorders (new old : PalletEntry) : Prop where
  /-- Nothing is missing. -/
  grown : new.Extends old
  /-- Nothing is added. -/
  back : old.Extends new
  /-- The one is consistent. -/
  newConsistent : new.IsConsistent
  /-- So is the other. -/
  oldConsistent : old.IsConsistent

/-- The order of items does not matter. -/
theorem Reorders.item?_eq (reorders : new.Reorders old) (name : String) :
    new.item? name = old.item? name :=
  Option.ext fun _ =>
    ⟨reorders.back.item? reorders.oldConsistent, reorders.grown.item? reorders.newConsistent⟩

/-- The order of calls does not matter. -/
theorem Reorders.callAt?_eq (reorders : new.Reorders old) (index : UInt8) :
    new.callAt? index = old.callAt? index :=
  Option.ext fun _ =>
    ⟨reorders.back.callAt? reorders.oldConsistent, reorders.grown.callAt? reorders.newConsistent⟩

/-- Where each of two lookups finds a pallet that extends what the other one finds, they find the
same up to order. -/
theorem reorders_of_found (oldFound newFound : Option PalletEntry)
    (forward : ∀ owner, oldFound = some owner →
      ∃ other, newFound = some other ∧ other.Extends owner ∧ other.IsConsistent)
    (backward : ∀ other, newFound = some other →
      ∃ owner, oldFound = some owner ∧ owner.Extends other ∧ owner.IsConsistent) :
    (newFound = none ∧ oldFound = none) ∨
      ∃ other owner, newFound = some other ∧ oldFound = some owner ∧ other.Reorders owner := by
  cases oldFound with
  | none =>
    left
    cases newFound with
    | none => exact ⟨rfl, rfl⟩
    | some other =>
      obtain ⟨owner, missing, -⟩ := backward other rfl
      cases missing
  | some owner =>
    right
    obtain ⟨other, rfl, grown, newConsistent⟩ := forward owner rfl
    obtain ⟨same, found, back, oldConsistent⟩ := backward other rfl
    obtain rfl := Option.some.inj found
    exact ⟨other, owner, rfl, rfl, grown, back, newConsistent, oldConsistent⟩

end PalletEntry

namespace Registry

variable {new old : Registry}

/-- A pallet is found by its name in a consistent registry that extends another one. -/
theorem Extends.pallet? (grown : new.Extends old) (consistent : new.IsConsistent) {name : String}
    {owner : PalletEntry} (found : old.pallet? name = some owner) :
    ∃ other, new.pallet? name = some other ∧ other.Extends owner ∧ other.IsConsistent := by
  obtain ⟨member, rfl⟩ := mem_of_find?_key found
  obtain ⟨other, listed, larger⟩ := grown owner member
  refine ⟨other, ?_, larger, consistent.pallets other listed⟩
  rw [← larger.name]
  exact find?_eq_some_of_mem consistent.palletNames listed

/-- A pallet is found by its index in a consistent registry that extends another one. -/
theorem Extends.palletAt? (grown : new.Extends old) (consistent : new.IsConsistent)
    {index : UInt8} {owner : PalletEntry} (found : old.palletAt? index = some owner) :
    ∃ other, new.palletAt? index = some other ∧ other.Extends owner ∧ other.IsConsistent := by
  obtain ⟨member, rfl⟩ := mem_of_find?_key found
  obtain ⟨other, listed, larger⟩ := grown owner member
  refine ⟨other, ?_, larger, consistent.pallets other listed⟩
  rw [← larger.index]
  exact find?_eq_some_of_mem consistent.palletIndices listed

/-! ### Lookups of items and of calls -/

namespace Extends

variable (grown : new.Extends old) (newConsistent : new.IsConsistent)

include grown newConsistent

/-- An item that is found stays found. -/
theorem storageItem {pallet item : String} {entry : StorageEntry}
    (found : old.storageItem pallet item = .ok entry) :
    new.storageItem pallet item = .ok entry := by
  obtain ⟨owner, listed, inside⟩ := storageItem_eq_ok_iff.mp found
  obtain ⟨other, relisted, larger, consistent⟩ := grown.pallet? newConsistent listed
  exact storageItem_eq_ok_iff.mpr ⟨other, relisted, larger.item? consistent inside⟩

/-- A call that is found stays found. -/
theorem callAt {pallet call : UInt8} {owner : PalletEntry} {entry : CallEntry}
    (found : old.callAt pallet call = .ok (owner, entry)) :
    ∃ other : PalletEntry, new.callAt pallet call = .ok (other, entry) ∧
      other.name = owner.name ∧ other.index = owner.index := by
  obtain ⟨listed, inside⟩ := callAt_eq_ok_iff.mp found
  obtain ⟨other, relisted, larger, consistent⟩ := grown.palletAt? newConsistent listed
  exact ⟨other, callAt_eq_ok_iff.mpr ⟨relisted, larger.callAt? consistent inside⟩, larger.name,
    larger.index⟩

variable (back : old.Extends new) (oldConsistent : old.IsConsistent)

include back oldConsistent

/-- Where nothing is added, items are found alike or missing alike. -/
theorem storageItem_eq (pallet item : String) :
    new.storageItem pallet item = old.storageItem pallet item := by
  rcases PalletEntry.reorders_of_found (old.pallet? pallet) (new.pallet? pallet)
    (fun _ => grown.pallet? newConsistent) (fun _ => back.pallet? oldConsistent) with
    ⟨newNone, oldNone⟩ | ⟨other, owner, newFound, oldFound, reorders⟩
  · simp only [Registry.storageItem, Registry.pallet, newNone, oldNone]
  · simp only [Registry.storageItem, Registry.pallet, newFound, oldFound, reorders.item?_eq]

/-- Where nothing is added, calls are found alike or missing alike. -/
theorem callAt_eq (pallet call : UInt8) :
    (new.callAt pallet call).map CallEntry.placed =
      (old.callAt pallet call).map CallEntry.placed := by
  rcases PalletEntry.reorders_of_found (old.palletAt? pallet) (new.palletAt? pallet)
    (fun _ => grown.palletAt? newConsistent) (fun _ => back.palletAt? oldConsistent) with
    ⟨newNone, oldNone⟩ | ⟨other, owner, newFound, oldFound, reorders⟩
  · simp only [Registry.callAt, newNone, oldNone]
  · simp only [Registry.callAt, newFound, oldFound, reorders.callAt?_eq]
    cases owner.callAt? call with
    | none => rfl
    | some entry =>
      simp only [Except.map, CallEntry.placed, reorders.grown.name, reorders.grown.index]

end Extends

end Registry

/-! ### What follows the lookup of an item -/

section Follow

variable {new old : Registry} {pallet item : String}

/-- The key of an item follows its lookup. -/
theorem StorageKey.ofItem_congr (same : new.storageItem pallet item = old.storageItem pallet item) :
    ofItem new pallet item = ofItem old pallet item := by
  rw [ofItem, ofItem, same]

/-- The keys of entries follow the lookup of their item. -/
theorem StorageKey.derive_congr (same : new.storageItem pallet item = old.storageItem pallet item)
    (keys : List Bytes) : derive new pallet item keys = derive old pallet item keys := by
  rw [derive, derive, same]

variable {Value : Type} {address : Address Value}

/-- A read follows the lookup of its item, records included. -/
theorem Reader.fetch_congr
    (same : new.storageItem address.pallet address.item =
      old.storageItem address.pallet address.item)
    (backend : Backend) (block : Option Hash) :
    fetch ⟨backend, new⟩ address block = fetch ⟨backend, old⟩ address block := by
  simp only [fetch, Address.keyTraced, StorageKey.deriveTraced, StorageKey.derive_congr same]

/-- So does a read with default. -/
theorem Reader.fetchOrDefault_congr
    (same : new.storageItem address.pallet address.item =
      old.storageItem address.pallet address.item)
    (backend : Backend) (block : Option Hash) :
    fetchOrDefault ⟨backend, new⟩ address block = fetchOrDefault ⟨backend, old⟩ address block := by
  simp only [fetchOrDefault, default, fetch_congr same backend block, same]

end Follow

/-- A description names the pallet and the call that are found. -/
theorem RuntimeCall.describe_eq_map (call : RuntimeCall) (registry : Registry) :
    call.describe registry =
      ((registry.callAt call.indices.1 call.indices.2).map CallEntry.placed).map
        fun (pallet, _, entry) => (pallet, entry.name) := by
  rw [describe]
  cases registry.callAt call.indices.1 call.indices.2 <;> rfl

/-! ### All answers -/

namespace Registry.Extends

variable {new old : Registry} (grown : new.Extends old) (newConsistent : new.IsConsistent)

include grown newConsistent

/-- An item that keys were derived for is found as it was. -/
theorem storageItem_eq_of_derive {pallet item : String} {keys : List Bytes} {key : StorageKey}
    (derived : StorageKey.derive old pallet item keys = .ok key) :
    new.storageItem pallet item = old.storageItem pallet item := by
  obtain ⟨entry, found⟩ := StorageKey.exists_storageItem derived
  rw [found, grown.storageItem newConsistent found]

/-- A registry that grows keeps its answers. -/
theorem keepsAnswers : old.KeepsAnswers new where
  storageItem := grown.storageItem newConsistent
  ofItem := by
    intro pallet item key derived
    rw [StorageKey.ofItem] at derived ⊢
    cases found : old.storageItem pallet item with
    | error fault =>
      rw [found] at derived
      cases derived
    | ok entry => rwa [grown.storageItem newConsistent found, ← found]
  derive := by
    intro pallet item keys key derived
    rwa [StorageKey.derive_congr (grown.storageItem_eq_of_derive newConsistent derived)]
  callAt := grown.callAt newConsistent
  describe := by
    intro call names described
    rw [RuntimeCall.describe_eq_map] at described ⊢
    cases found : old.callAt call.indices.1 call.indices.2 with
    | error fault =>
      rw [found] at described
      cases described
    | ok pair =>
      obtain ⟨owner, entry⟩ := pair
      obtain ⟨other, refound, name, index⟩ := grown.callAt newConsistent found
      have placed : CallEntry.placed (other, entry) = CallEntry.placed (owner, entry) := by
        rw [CallEntry.placed, CallEntry.placed, name, index]
      rw [refound, Except.map, placed]
      rwa [found] at described
  fetch := by
    intro Value address key derived
    exact Reader.fetch_congr (grown.storageItem_eq_of_derive newConsistent derived)
  fetchOrDefault := by
    intro Value address key derived
    exact Reader.fetchOrDefault_congr (grown.storageItem_eq_of_derive newConsistent derived)

/-- A registry that is put in another order gives the same answers. -/
theorem sameAnswers (back : old.Extends new) (oldConsistent : old.IsConsistent) :
    old.SameAnswers new := by
  have items := grown.storageItem_eq newConsistent back oldConsistent
  have calls := grown.callAt_eq newConsistent back oldConsistent
  constructor
  · exact items
  · intro pallet item
    exact StorageKey.ofItem_congr (items pallet item)
  · intro pallet item
    exact StorageKey.derive_congr (items pallet item)
  · exact calls
  · intro call
    rw [RuntimeCall.describe_eq_map, RuntimeCall.describe_eq_map, calls]
  · intro Value address
    exact Reader.fetch_congr (items address.pallet address.item)
  · intro Value address
    exact Reader.fetchOrDefault_congr (items address.pallet address.item)

end Registry.Extends

/-- A consistent registry that has all that another consistent one has, in any order, keeps its
answers: items, keys, calls and descriptions that were found are found as they were, and reads of
addresses that had a key come to the same over every source. If nothing is added either, all answers
are the same, errors included. -/
theorem upgrade_keeps_answers {old new : Registry} (oldValid : old.validate = .ok ())
    (newValid : new.validate = .ok ()) (grown : new.Extends old) :
    old.KeepsAnswers new ∧ (old.Extends new → old.SameAnswers new) := by
  have oldConsistent := Registry.validate_eq_ok_iff.mp oldValid
  have newConsistent := Registry.validate_eq_ok_iff.mp newValid
  exact ⟨grown.keepsAnswers newConsistent,
    fun back => grown.sameAnswers newConsistent back oldConsistent⟩

/-- The built-in registry from the last pallet to the first, under the next version. -/
def reversedBuiltin : Registry := ⟨130, Registry.builtin.pallets.reverse⟩

/-- The built-in registry read from its end keeps the entry of the chain's number, and still has no
item of another name. -/
theorem upgrade_keeps_answers_reversed :
    Registry.builtin.validate = .ok () ∧ reversedBuiltin.validate = .ok () ∧
      reversedBuiltin.Extends .builtin ∧ Registry.builtin.Extends reversedBuiltin ∧
      reversedBuiltin.storageItem "ParachainInfo" "ParachainId" =
        .ok (Registry.plain "ParachainId" "u32" [0x64, 0, 0, 0]) ∧
      reversedBuiltin.storageItem "ParachainInfo" "Missing" =
        .error (.unknownStorage "ParachainInfo" "Missing") := by
  have valid : Registry.builtin.validate = .ok () := by decide +kernel
  have reversedValid : reversedBuiltin.validate = .ok () := by decide +kernel
  have own : ∀ pallet : PalletEntry, pallet.Extends pallet := fun pallet =>
    ⟨rfl, rfl, List.Subset.refl _, List.Subset.refl _⟩
  have grown : reversedBuiltin.Extends .builtin := fun pallet member =>
    ⟨pallet, List.mem_reverse.mpr member, own pallet⟩
  have back : Registry.builtin.Extends reversedBuiltin := fun pallet member =>
    ⟨pallet, List.mem_reverse.mp member, own pallet⟩
  obtain ⟨keeps, same⟩ := upgrade_keeps_answers valid reversedValid grown
  refine ⟨valid, reversedValid, grown, back, keeps.storageItem rfl, ?_⟩
  rw [(same back).storageItem]
  rfl

end EnclaveChain
