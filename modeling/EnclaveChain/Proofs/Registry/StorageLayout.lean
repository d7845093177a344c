import EnclaveChain.Proofs.Registry.CallLayout
import EnclaveChain.Proofs.Storage.Outcome
import EnclaveChain.Proofs.Storage.Slot

/-!
# The built-in registry describes the slots

The layouts of the items and the entries of the built-in registry are two tables, and one evaluation
for each item shows that they agree on names, on the number and the types of the arguments and on
the value that the default bytes spell (`StorageItem.exists_entry`). What a read of a slot comes to
then follows for all arguments and all sources of stored bytes: it never fails for a reason that
lies in the registry.
-/
namespace EnclaveChain

open Scale

/-! ### Reading the registry -/

namespace Registry

/-- The layouts of the types that arguments of storage items have. -/
def keyLayouts : List SomeSchema :=
  [⟨.u8⟩, ⟨.u32⟩, ⟨.u64⟩, ⟨.u128⟩, ⟨AccountId.schema⟩, ⟨WorkloadId.schema⟩]

/-- The layout of the type of a name. -/
def keyLayoutNamed? (name : String) : Option SomeSchema :=
  keyLayouts.find? fun some => some.schema.typeName = name

/-- Whether bytes are the encoding of a value of the type of a name. -/
def Encodes (type : String) (bytes : Bytes) : Prop :=
  ∃ value : SomeValue, keyLayoutNamed? type = some value.layout ∧ bytes = value.encode

/-- The names of the items that a registry lists, each with the name of its pallet. -/
def itemNames (registry : Registry) : List (String × String) :=
  registry.pallets.flatMap fun pallet => pallet.storage.map fun entry => (pallet.name, entry.name)

end Registry

/-- The name of an item with the name of its pallet. -/
def StorageItem.names (item : StorageItem) : String × String :=
  (item.layout.pallet.name, item.layout.name)

namespace KeyLayout

/-- The layouts of the arguments. -/
def layouts {α : Type} : KeyLayout α → List SomeSchema
  | .none => []
  | .one key => [⟨key⟩]
  | .two first second => [⟨first⟩, ⟨second⟩]

/-- The arguments with their layouts. -/
def values : {α : Type} → KeyLayout α → α → List SomeValue
  | _, .none, () => []
  | _, .one key, value => [⟨key, value⟩]
  | _, .two first second, (left, right) => [⟨first, left⟩, ⟨second, right⟩]

/-- Arguments have the layouts that they are given with. -/
theorem values_layout {α : Type} (layout : KeyLayout α) (key : α) :
    (layout.values key).map SomeValue.layout = layout.layouts := by
  cases layout <;> rfl

/-- Arguments are encoded one by one. -/
theorem values_encode {α : Type} (layout : KeyLayout α) (key : α) :
    (layout.values key).map SomeValue.encode = layout.encode key := by
  cases layout <;> rfl

end KeyLayout

/-- An entry describes an item when a value of the item is stored and read as the entry says. -/
structure StorageEntry.Describes (entry : StorageEntry) (layout : ItemLayout) : Prop where
  /-- There is a hasher for each argument. -/
  counted : entry.hashers.length = layout.keys.arity
  /-- The types of the arguments are named in order. -/
  typed : entry.keyTypes.map Registry.keyLayoutNamed? = layout.keys.layouts.map some
  /-- The type of the value is named. -/
  valued : entry.valueType = layout.value.typeName
  /-- Default bytes spell a value. -/
  spelled : entry.default?.all fun bytes => (layout.value.decodeAll bytes).isOk

/-- Whether an error says that an address does not fit the registry. -/
def Error.isMisfit : Error → Bool
  | .unknownPallet _ | .unknownStorage _ _ | .keyCount _ _ _ _ | .defaultDecode _ _ _ => true
  | _ => false

/-! ### The two tables -/

namespace StorageItem

/-- Every item has an entry that describes it. -/
theorem exists_entry (item : StorageItem) :
    ∃ entry, Registry.builtin.storageItem item.layout.pallet.name item.layout.name = .ok entry ∧
      entry.Describes item.layout := by
  cases item <;> exact ⟨_, rfl, rfl, rfl, rfl, rfl⟩

/-- Every item is listed. -/
theorem names_mem_itemNames (item : StorageItem) : item.names ∈ Registry.builtin.itemNames := by
  have all : ∀ item ∈ StorageItem.all, item.names ∈ Registry.builtin.itemNames := by
    decide +kernel
  exact all item item.mem_all

/-- Items are told apart by their names. -/
theorem names_injective : Function.Injective names := fun left right same =>
  List.inj_on_of_nodup_map names_nodup left.mem_all right.mem_all same

end StorageItem

/-- No names are listed twice. -/
theorem builtin_itemNames_nodup : Registry.builtin.itemNames.Nodup := by decide +kernel

/-- Every listed item is an item that the runtime stores. -/
theorem exists_item_of_mem_itemNames :
    ∀ names ∈ Registry.builtin.itemNames, ∃ item ∈ StorageItem.all, item.names = names := by
  decide +kernel

/-! ### What follows for a described item -/

namespace StorageEntry.Describes

variable {entry : StorageEntry} {layout : ItemLayout}

/-- The arguments of a described item are encoded as the types that the entry names. -/
theorem forall₂_encodes (describes : entry.Describes layout) (key : layout.Key) :
    List.Forall₂ Registry.Encodes entry.keyTypes (layout.keys.encode key) := by
  have named : List.Forall₂
      (fun type value => Registry.keyLayoutNamed? type = some (SomeValue.layout value))
      entry.keyTypes (layout.keys.values key) := by
    rw [← map_eq_map_iff, describes.typed, ← layout.keys.values_layout key, List.map_map]
    rfl
  rw [← layout.keys.values_encode key, List.forall₂_map_right_iff]
  exact named.imp fun type value same => ⟨value, same, rfl⟩

/-- The default bytes of a described item are the encoding of a value. -/
theorem exists_default (describes : entry.Describes layout) {bytes : Bytes}
    (offered : entry.default? = some bytes) :
    ∃ value, layout.value.decodeAll bytes = .ok value ∧ layout.value.encode value = bytes := by
  have spelled := describes.spelled
  rw [offered, Option.all_some] at spelled
  cases decoded : layout.value.decodeAll bytes with
  | error fault =>
    rw [decoded] at spelled
    cases spelled
  | ok value => exact ⟨value, rfl, (layout.value.decodeAll_eq_ok_iff.mp decoded).2.symm⟩

end StorageEntry.Describes

namespace Reader

variable (backend : Backend) (slot : Slot) (block : Option Hash)

/-- A read of a slot fails only where the source fails or stored bytes are malformed. -/
theorem fetch_slot_eq_error {fault : Error}
    (failed : (fetch ⟨backend, .builtin⟩ slot.address block).result = .error fault) :
    (backend slot.place block).result = .error fault ∨
      ∃ cause, fault = .decode slot.address.pallet slot.address.item cause := by
  rw [result_fetch, slot.address_key] at failed
  simp only at failed
  split at failed
  · rename_i cause asked
    obtain rfl := Except.error.inj failed
    exact .inl asked
  · cases failed
  · rename_i bytes asked
    right
    rw [Address.decodeStored] at failed
    cases decoded : slot.address.schema.decodeAll bytes with
    | ok value =>
      rw [decoded] at failed
      cases failed
    | error cause =>
      rw [decoded] at failed
      cases failed
      exact ⟨cause, rfl⟩

/-- The default of a slot is the value that the default bytes of its entry spell, or it is missing
as the entry says. -/
theorem default_slot {entry : StorageEntry} (describes : entry.Describes slot.item.layout)
    (listed : Registry.builtin.storageItem slot.address.pallet slot.address.item = .ok entry) :
    (entry.modifier = .default → ∃ value,
      (default ⟨backend, .builtin⟩ slot.address).result = .ok value ∧
        slot.address.schema.encode value = entry.default) ∧
    (entry.modifier = .optional →
      (default ⟨backend, .builtin⟩ slot.address).result =
        .error (.noDefault slot.address.pallet slot.address.item)) := by
  rw [result_default]
  simp only [listed]
  constructor
  · intro kind
    have offered : entry.default? = some entry.default := by rw [StorageEntry.default?, kind]
    obtain ⟨value, decoded, encoded⟩ := describes.exists_default offered
    refine ⟨value, ?_, encoded⟩
    simp only [offered, Address.decodeDefault]
    have same : slot.address.schema.decodeAll entry.default = .ok value := decoded
    rw [same]
  · intro kind
    have missing : entry.default? = none := by rw [StorageEntry.default?, kind]
    simp only [missing]

/-- Where nothing is stored a read comes to nothing. -/
theorem fetch_slot_absent (absent : (backend slot.place block).result = .ok none) :
    (fetch ⟨backend, .builtin⟩ slot.address block).result = .ok none := by
  rw [result_fetch, slot.address_key]
  simp only [absent]

section Honest

variable {backend slot block}
  (honest : ∀ key fault, (backend key block).result = .error fault → ¬ fault.isMisfit)

include honest

/-- No read fails because of the registry, unless the source of stored bytes does. -/
theorem not_isMisfit_of_fetch {fault : Error}
    (failed : (fetch ⟨backend, .builtin⟩ slot.address block).result = .error fault) :
    ¬ fault.isMisfit := by
  rcases fetch_slot_eq_error backend slot block failed with asked | ⟨cause, rfl⟩
  · exact honest _ _ asked
  · simp [Error.isMisfit]

/-- Nor does a read with default: every slot has its default, or none on purpose. -/
theorem not_isMisfit_of_fetchOrDefault {fault : Error}
    (failed : (fetchOrDefault ⟨backend, .builtin⟩ slot.address block).result = .error fault) :
    ¬ fault.isMisfit := by
  rw [result_fetchOrDefault] at failed
  split at failed
  · rename_i cause fetched
    cases failed
    exact not_isMisfit_of_fetch honest fetched
  · cases failed
  · obtain ⟨entry, listed, describes⟩ := slot.item.exists_entry
    obtain ⟨filled, missing⟩ := default_slot backend slot describes listed
    cases kind : entry.modifier with
    | default =>
      obtain ⟨value, found, -⟩ := filled kind
      rw [found] at failed
      cases failed
    | optional =>
      rw [missing kind] at failed
      cases failed
      simp [Error.isMisfit]

end Honest

end Reader

/-- Every slot fits the built-in registry, whatever its arguments. It has an entry, whose hashers
are as many as its encoded arguments and whose types these are encodings of, and so it has a key.
Where nothing is stored under this key, a read with default comes to the value that the default
bytes spell or, for an entry without default, to the error that says so. No read fails because of
the registry, unless the source of stored bytes says so itself. And slots are made for each listed
item once and for no other. -/
theorem slots_fit_builtin :
    (∀ slot : Slot, ∃ entry key,
      Registry.builtin.storageItem slot.address.pallet slot.address.item = .ok entry ∧
      slot.address.keys.length = entry.hashers.length ∧
      List.Forall₂ Registry.Encodes entry.keyTypes slot.address.keys ∧
      entry.valueType = slot.address.schema.typeName ∧
      slot.address.key .builtin = .ok key ∧
      ∀ (backend : Backend) (block : Option Hash), (backend key block).result = .ok none →
        (entry.modifier = .default → ∃ value,
          (Reader.fetchOrDefault ⟨backend, .builtin⟩ slot.address block).result = .ok value ∧
            slot.address.schema.encode value = entry.default) ∧
        (entry.modifier = .optional →
          (Reader.fetchOrDefault ⟨backend, .builtin⟩ slot.address block).result =
            .error (.noDefault slot.address.pallet slot.address.item))) ∧
    (∀ (backend : Backend) (slot : Slot) (block : Option Hash),
      (∀ key fault, (backend key block).result = .error fault → ¬ fault.isMisfit) →
      ∀ fault,
        ((Reader.fetch ⟨backend, .builtin⟩ slot.address block).result = .error fault →
          ¬ fault.isMisfit) ∧
        ((Reader.fetchOrDefault ⟨backend, .builtin⟩ slot.address block).result = .error fault →
          ¬ fault.isMisfit)) ∧
    Registry.builtin.itemNames.Nodup ∧
    (∀ item : StorageItem, item.names ∈ Registry.builtin.itemNames) ∧
    (∀ names ∈ Registry.builtin.itemNames, ∃! item : StorageItem, item.names = names) := by
  refine ⟨?_, ?_, builtin_itemNames_nodup, StorageItem.names_mem_itemNames, ?_⟩
  · intro slot
    obtain ⟨entry, listed, describes⟩ := slot.item.exists_entry
    refine ⟨entry, slot.place, listed, ?_, describes.forall₂_encodes slot.key, describes.valued,
      slot.address_key, ?_⟩
    · rw [describes.counted]
      exact slot.item.layout.keys.length_encode slot.key
    · intro backend block absent
      rw [Reader.result_fetchOrDefault, Reader.fetch_slot_absent backend slot block absent]
      exact Reader.default_slot backend slot describes listed
  · intro backend slot block honest fault
    exact ⟨Reader.not_isMisfit_of_fetch honest, Reader.not_isMisfit_of_fetchOrDefault honest⟩
  · intro names listed
    obtain ⟨item, -, rfl⟩ := exists_item_of_mem_itemNames names listed
    exact ⟨item, rfl, fun other same => StorageItem.names_injective same⟩

/-- A node that nothing connects to. -/
def unreachableBackend : Backend := fun _ _ => ⟨.error (.node .unreachable), []⟩

/-- An empty state has chain number 100 by default and no cluster 7, and a read that the node does
not answer fails for no reason in the registry. -/
theorem slots_fit_builtin_empty :
    (∃ value : UInt32,
      (Reader.fetchOrDefault ⟨MemoryState.empty.backend, .builtin⟩
        (Slot.mk .parachainId ()).address none).result = .ok value ∧
      Schema.u32.encode value = [0x64, 0, 0, 0]) ∧
    (Reader.fetchOrDefault ⟨MemoryState.empty.backend, .builtin⟩
      (Slot.mk .clusters (7 : UInt64)).address none).result =
        .error (.noDefault "WeteeWorker" "K8sClusters") ∧
    (∀ fault, (Reader.fetchOrDefault ⟨unreachableBackend, .builtin⟩
      (Slot.mk .clusters (7 : UInt64)).address none).result = .error fault → ¬ fault.isMisfit) := by
  refine ⟨?_, ?_, ?_⟩
  · obtain ⟨entry, key, listed, -, -, -, -, read⟩ := slots_fit_builtin.1 (.mk .parachainId ())
    obtain rfl := Except.ok.inj listed
    exact (read MemoryState.empty.backend none rfl).1 rfl
  · obtain ⟨entry, key, listed, -, -, -, -, read⟩ :=
      slots_fit_builtin.1 (.mk .clusters (7 : UInt64))
    obtain rfl := Except.ok.inj listed
    exact (read MemoryState.empty.backend none rfl).2 rfl
  · have honest : ∀ key fault, (unreachableBackend key none).result = .error fault →
        ¬ fault.isMisfit := by
      rintro key fault ⟨⟩
      simp [Error.isMisfit]
    intro fault
    exact (slots_fit_builtin.2.1 unreachableBackend (.mk .clusters (7 : UInt64)) none honest
      fault).2

end EnclaveChain
