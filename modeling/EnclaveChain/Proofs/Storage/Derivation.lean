import EnclaveChain.Proofs.Registry.Lookup
import EnclaveChain.Proofs.Storage.Hashed

/-!
# Deriving keys

Whether a key can be derived is decided by the registry and by the number of arguments, and by
nothing else: the names are looked up from the front, and the arguments are counted but not read
(`derive_eq_error_iff`, `derive_eq_ok_iff`). A key that is derived grows out of the key of its item
by one hashed argument after the other, and stands at every step for the arguments so far, as if
the item took no more of them (`StorageKey.Layered`). Neither needs the registry to be consistent.
-/
namespace EnclaveChain

/-! ### The first of a name -/

/-- An entry has the name that is wanted, and no entry before it has. -/
def IsFirst {α : Type} (name : α → String) (wanted : String) (entries : List α) (entry : α) :
    Prop :=
  ∃ earlier later, entries = earlier ++ entry :: later ∧ name entry = wanted ∧
    ∀ other ∈ earlier, name other ≠ wanted

/-- A lookup finds the first entry of a name. -/
theorem find?_eq_some_iff_isFirst {α : Type} {name : α → String} {wanted : String}
    {entries : List α} {entry : α} :
    entries.find? (fun other => name other = wanted) = some entry ↔
      IsFirst name wanted entries entry := by
  rw [List.find?_eq_some_iff_append, IsFirst]
  constructor
  · rintro ⟨named, earlier, later, rfl, apart⟩
    exact ⟨earlier, later, rfl, of_decide_eq_true named, fun other member => by
      simpa using apart other member⟩
  · rintro ⟨earlier, later, rfl, named, apart⟩
    exact ⟨decide_eq_true named, earlier, later, rfl, fun other member => by
      simpa using apart other member⟩

/-- A lookup finds nothing where no entry has the name. -/
theorem find?_eq_none_iff_forall_ne {α : Type} {name : α → String} {wanted : String}
    {entries : List α} :
    entries.find? (fun other => name other = wanted) = none ↔
      ∀ entry ∈ entries, name entry ≠ wanted := by
  simp

namespace Registry

/-- A storage item is the first of its name in the first pallet of its name. -/
def Lists (registry : Registry) (pallet item : String) (entry : StorageEntry) : Prop :=
  ∃ owner, IsFirst PalletEntry.name pallet registry.pallets owner ∧
    IsFirst StorageEntry.name item owner.storage entry

/-- The item that is looked up is the one that is listed. -/
theorem storageItem_eq_ok_iff_lists {registry : Registry} {pallet item : String}
    {entry : StorageEntry} :
    registry.storageItem pallet item = .ok entry ↔ registry.Lists pallet item entry := by
  simp only [storageItem_eq_ok_iff, Lists, ← find?_eq_some_iff_isFirst]
  rfl

/-- A listed item has the name that it is listed under. -/
theorem Lists.name_eq {registry : Registry} {pallet item : String} {entry : StorageEntry}
    (listed : registry.Lists pallet item entry) : entry.name = item := by
  obtain ⟨owner, -, earlier, later, -, named, -⟩ := listed
  exact named

/-- A registry has no pallet of a name, or its first one has no item of a name, or it lists the
item. -/
theorem lookup_cases (registry : Registry) (pallet item : String) :
    (∀ entry ∈ registry.pallets, entry.name ≠ pallet) ∨
    (∃ owner, IsFirst PalletEntry.name pallet registry.pallets owner ∧
      ∀ entry ∈ owner.storage, entry.name ≠ item) ∨
    ∃ entry, registry.Lists pallet item entry := by
  cases owned : registry.pallet? pallet with
  | none => exact .inl (find?_eq_none_iff_forall_ne.mp owned)
  | some owner =>
    have first := find?_eq_some_iff_isFirst.mp owned
    cases found : owner.item? item with
    | none => exact .inr (.inl ⟨owner, first, find?_eq_none_iff_forall_ne.mp found⟩)
    | some entry => exact .inr (.inr ⟨entry, owner, first, find?_eq_some_iff_isFirst.mp found⟩)

end Registry

namespace StorageKey

variable {registry : Registry} {pallet item : String} {keys : List Bytes}

/-! ### When a key is derived -/

/-- Why no key is derived for so many arguments. -/
inductive Fault (registry : Registry) (pallet item : String) (given : Nat) : Error → Prop where
  /-- No pallet has the name. -/
  | pallet (missing : ∀ entry ∈ registry.pallets, entry.name ≠ pallet) :
    Fault registry pallet item given (.unknownPallet pallet)
  /-- The first pallet of the name has no item of the name. -/
  | item {owner : PalletEntry} (first : IsFirst PalletEntry.name pallet registry.pallets owner)
      (missing : ∀ entry ∈ owner.storage, entry.name ≠ item) :
    Fault registry pallet item given (.unknownStorage pallet item)
  /-- The item asks for another number of arguments. -/
  | count {entry : StorageEntry} (listed : registry.Lists pallet item entry)
      (differ : entry.hashers.length ≠ given) :
    Fault registry pallet item given (.keyCount pallet item entry.hashers.length given)

/-- Without a pallet of the name there is no key. -/
theorem derive_of_no_pallet (missing : ∀ entry ∈ registry.pallets, entry.name ≠ pallet) :
    derive registry pallet item keys = .error (.unknownPallet pallet) := by
  have unowned : registry.pallet? pallet = none := find?_eq_none_iff_forall_ne.mpr missing
  simp only [derive, Registry.storageItem, Registry.pallet, unowned]

/-- Without an item of the name in the pallet there is no key. -/
theorem derive_of_no_item {owner : PalletEntry}
    (first : IsFirst PalletEntry.name pallet registry.pallets owner)
    (missing : ∀ entry ∈ owner.storage, entry.name ≠ item) :
    derive registry pallet item keys = .error (.unknownStorage pallet item) := by
  have owned : registry.pallet? pallet = some owner := find?_eq_some_iff_isFirst.mpr first
  have unlisted : owner.item? item = none := find?_eq_none_iff_forall_ne.mpr missing
  simp only [derive, Registry.storageItem, Registry.pallet, owned, unlisted]

/-- A key of a listed item is derived if the arguments have the right number. -/
theorem derive_of_lists {entry : StorageEntry} (listed : registry.Lists pallet item entry) :
    derive registry pallet item keys =
      if entry.hashers.length = keys.length then
        .ok ⟨itemStem pallet item ++ hashed entry.hashers keys⟩
      else .error (.keyCount pallet item entry.hashers.length keys.length) := by
  rw [derive, Registry.storageItem_eq_ok_iff_lists.mpr listed]
  simp only [listed.name_eq]

/-- No key is derived exactly where the registry and the number of arguments forbid it. -/
theorem derive_eq_error_iff {error : Error} :
    derive registry pallet item keys = .error error ↔
      Fault registry pallet item keys.length error := by
  constructor
  · intro failed
    rcases registry.lookup_cases pallet item with
      missing | ⟨owner, first, missing⟩ | ⟨entry, listed⟩
    · rw [derive_of_no_pallet missing] at failed
      cases failed
      exact .pallet missing
    · rw [derive_of_no_item first missing] at failed
      cases failed
      exact .item first missing
    · rw [derive_of_lists listed] at failed
      split at failed
      · cases failed
      · rename_i differ
        cases failed
        exact .count listed differ
  · intro fault
    cases fault with
    | pallet missing => exact derive_of_no_pallet missing
    | item first missing => exact derive_of_no_item first missing
    | count listed differ => rw [derive_of_lists listed, if_neg differ]

/-- A pallet is unknown exactly where none has the name. -/
theorem derive_eq_unknownPallet_iff :
    derive registry pallet item keys = .error (.unknownPallet pallet) ↔
      ∀ entry ∈ registry.pallets, entry.name ≠ pallet := by
  rw [derive_eq_error_iff]
  constructor
  · intro fault
    cases fault with
    | pallet missing => exact missing
  · exact .pallet

/-- An item is unknown exactly where the first pallet of its name does not have it. -/
theorem derive_eq_unknownStorage_iff :
    derive registry pallet item keys = .error (.unknownStorage pallet item) ↔
      ∃ owner, IsFirst PalletEntry.name pallet registry.pallets owner ∧
        ∀ entry ∈ owner.storage, entry.name ≠ item := by
  rw [derive_eq_error_iff]
  constructor
  · intro fault
    cases fault with
    | item first missing => exact ⟨_, first, missing⟩
  · rintro ⟨owner, first, missing⟩
    exact .item first missing

/-- The arguments are miscounted exactly where the listed item asks for another number, and both
numbers are told. -/
theorem derive_eq_keyCount_iff {declared given : Nat} :
    derive registry pallet item keys = .error (.keyCount pallet item declared given) ↔
      ∃ entry, registry.Lists pallet item entry ∧ declared = entry.hashers.length ∧
        given = keys.length ∧ declared ≠ given := by
  rw [derive_eq_error_iff]
  constructor
  · intro fault
    cases fault with
    | count listed differ => exact ⟨_, listed, rfl, rfl, differ⟩
  · rintro ⟨entry, listed, rfl, rfl, differ⟩
    exact .count listed differ

/-- A key is derived exactly for as many arguments as the listed item asks for. -/
theorem derive_eq_ok_iff {key : StorageKey} :
    derive registry pallet item keys = .ok key ↔
      ∃ entry, registry.Lists pallet item entry ∧ entry.hashers.length = keys.length ∧
        key = ⟨itemStem pallet item ++ hashed entry.hashers keys⟩ := by
  constructor
  · intro derived
    rcases registry.lookup_cases pallet item with
      missing | ⟨owner, first, missing⟩ | ⟨entry, listed⟩
    · rw [derive_of_no_pallet missing] at derived
      cases derived
    · rw [derive_of_no_item first missing] at derived
      cases derived
    · rw [derive_of_lists listed] at derived
      split at derived
      · rename_i counted
        cases derived
        exact ⟨entry, listed, counted, rfl⟩
      · cases derived
  · rintro ⟨entry, listed, counted, rfl⟩
    rw [derive_of_lists listed, if_pos counted]

/-- As many other arguments come to a key too, or to the same error. -/
theorem derive_of_length_eq {others : List Bytes} (counted : others.length = keys.length) :
    (∃ key other, derive registry pallet item keys = .ok key ∧
      derive registry pallet item others = .ok other) ∨
    ∃ error, derive registry pallet item keys = .error error ∧
      derive registry pallet item others = .error error := by
  cases outcome : derive registry pallet item keys with
  | ok key =>
    obtain ⟨entry, listed, enough, -⟩ := derive_eq_ok_iff.mp outcome
    exact .inl ⟨key, _, rfl, derive_eq_ok_iff.mpr ⟨entry, listed, enough.trans counted.symm, rfl⟩⟩
  | error error =>
    have fault := derive_eq_error_iff.mp outcome
    rw [← counted] at fault
    exact .inr ⟨error, rfl, derive_eq_error_iff.mpr fault⟩

end StorageKey

/-! ### What a key is made of -/

/-- The item with no more than so many arguments. -/
def StorageEntry.takeKeys (count : Nat) (entry : StorageEntry) : StorageEntry :=
  { entry with hashers := entry.hashers.take count }

/-- The pallet with no more than so many arguments for each item. -/
def PalletEntry.takeKeys (count : Nat) (pallet : PalletEntry) : PalletEntry :=
  { pallet with storage := pallet.storage.map (StorageEntry.takeKeys count) }

/-- The registry with no more than so many arguments for each item. -/
def Registry.takeKeys (registry : Registry) (count : Nat) : Registry :=
  { registry with pallets := registry.pallets.map (PalletEntry.takeKeys count) }

/-- The first entry of a name stays the first when all entries are changed but for their names. -/
theorem IsFirst.map {α : Type} {name : α → String} {wanted : String} {entries : List α}
    {entry : α} (first : IsFirst name wanted entries entry) {change : α → α}
    (same : ∀ other, name (change other) = name other) :
    IsFirst name wanted (entries.map change) (change entry) := by
  obtain ⟨earlier, later, rfl, named, apart⟩ := first
  refine ⟨earlier.map change, later.map change, by simp, (same entry).trans named, ?_⟩
  intro moved member
  obtain ⟨other, before, rfl⟩ := List.mem_map.mp member
  rw [same other]
  exact apart other before

/-- A listed item stays listed with fewer arguments. -/
theorem Registry.Lists.takeKeys {registry : Registry} {pallet item : String}
    {entry : StorageEntry} (listed : registry.Lists pallet item entry) (count : Nat) :
    (registry.takeKeys count).Lists pallet item (entry.takeKeys count) := by
  obtain ⟨owner, first, found⟩ := listed
  exact ⟨owner.takeKeys count, first.map fun _ => rfl, found.map fun _ => rfl⟩

namespace StorageKey

/-- Arguments that are hashed in two runs are hashed one run after the other. -/
theorem hashed_append {hashers : List Hasher} {keys : List Bytes}
    (counted : hashers.length = keys.length) (moreHashers : List Hasher) (moreKeys : List Bytes) :
    hashed (hashers ++ moreHashers) (keys ++ moreKeys) =
      hashed hashers keys ++ hashed moreHashers moreKeys := by
  rw [hashed, List.zipWith_append counted, List.flatten_append]
  rfl

/-- The hashed forms of the first arguments come first. -/
theorem hashed_take_append_drop {hashers : List Hasher} {keys : List Bytes}
    (counted : hashers.length = keys.length) (count : Nat) :
    hashed hashers keys =
      hashed (hashers.take count) (keys.take count) ++
        hashed (hashers.drop count) (keys.drop count) := by
  rw [← hashed_append (by rw [List.length_take, List.length_take, counted]),
    List.take_append_drop, List.take_append_drop]

/-- One more argument adds its hashed form. -/
theorem hashed_take_succ {hashers : List Hasher} {keys : List Bytes}
    (counted : hashers.length = keys.length) {index : Nat} {hasher : Hasher} {argument : Bytes}
    (hashedBy : hashers[index]? = some hasher) (given : keys[index]? = some argument) :
    hashed (hashers.take (index + 1)) (keys.take (index + 1)) =
      hashed (hashers.take index) (keys.take index) ++ hasher.apply argument := by
  rw [List.take_add_one, List.take_add_one, hashedBy, given,
    hashed_append (by rw [List.length_take, List.length_take, counted])]
  simp [hashed]

/-- How the key for some arguments of an item is put together: `part count` is the key for the
first `count` of them. -/
structure Layered (registry : Registry) (pallet item : String) (keys : List Bytes)
    (entry : StorageEntry) (key : StorageKey) (part : Nat → StorageKey) : Prop where
  /-- There is a hasher for each argument. -/
  counted : entry.hashers.length = keys.length
  /-- For the first arguments it is derived as if the item took no more. -/
  derived : ∀ count, derive (registry.takeKeys count) pallet item (keys.take count) =
    .ok (part count)
  /-- For no argument it is the key of the item. -/
  stem : ofItem registry pallet item = .ok (part 0)
  /-- That key has 32 bytes. -/
  length_stem : (part 0).bytes.length = 32
  /-- One more argument adds its hashed form, which has the length that its hasher declares. -/
  step : ∀ index hasher argument, entry.hashers[index]? = some hasher →
    keys[index]? = some argument →
    (part (index + 1)).bytes = (part index).bytes ++ hasher.apply argument ∧
      (hasher.apply argument).length = hasher.width argument.length
  /-- For all arguments it is the key. -/
  whole : part keys.length = key
  /-- The key begins with every part. -/
  begins : ∀ count, (part count).bytes <+: key.bytes

/-- Every key that is derived is put together so. -/
theorem exists_layered {registry : Registry} {pallet item : String} {keys : List Bytes}
    {key : StorageKey} (derived : derive registry pallet item keys = .ok key) :
    ∃ entry part, registry.Lists pallet item entry ∧
      Layered registry pallet item keys entry key part := by
  obtain ⟨entry, listed, counted, rfl⟩ := derive_eq_ok_iff.mp derived
  let part (count : Nat) : StorageKey :=
    ⟨itemStem pallet item ++ hashed (entry.hashers.take count) (keys.take count)⟩
  refine ⟨entry, part, listed, ?_⟩
  constructor
  case counted => exact counted
  case derived =>
    intro count
    refine derive_eq_ok_iff.mpr ⟨_, listed.takeKeys count, ?_, rfl⟩
    rw [StorageEntry.takeKeys, List.length_take, List.length_take, counted]
  case stem =>
    rw [ofItem, Registry.storageItem_eq_ok_iff_lists.mpr listed]
    simp only [listed.name_eq, part, List.take_zero, hashed_nil, List.append_nil]
  case length_stem => simp [part, itemStem]
  case step =>
    intro index hasher argument hashedBy given
    refine ⟨?_, hasher.length_apply argument⟩
    simp only [part, hashed_take_succ counted hashedBy given, List.append_assoc]
  case whole =>
    simp only [part, List.take_length]
    rw [← counted, List.take_length]
  case begins =>
    intro count
    rw [hashed_take_append_drop counted count, ← List.append_assoc]
    exact List.prefix_append _ _

end StorageKey

/-- Deriving a key fails for reasons that the registry decides, in order: no pallet has the name,
or the first such pallet has no item of the name, or the first such item asks for another number of
arguments. Otherwise there is a key. So the arguments themselves decide nothing, and two lists of
one length come to keys both or to one error. A key begins with the 32 bytes of its item and grows
by one hashed argument after the other, each of the length that its hasher declares. -/
theorem derivation_decided_by_registry (registry : Registry) (pallet item : String)
    (keys : List Bytes) :
    (StorageKey.derive registry pallet item keys = .error (.unknownPallet pallet) ↔
      ∀ entry ∈ registry.pallets, entry.name ≠ pallet) ∧
    (StorageKey.derive registry pallet item keys = .error (.unknownStorage pallet item) ↔
      ∃ owner, IsFirst PalletEntry.name pallet registry.pallets owner ∧
        ∀ entry ∈ owner.storage, entry.name ≠ item) ∧
    (∀ declared given,
      StorageKey.derive registry pallet item keys =
          .error (.keyCount pallet item declared given) ↔
        ∃ entry, registry.Lists pallet item entry ∧ declared = entry.hashers.length ∧
          given = keys.length ∧ declared ≠ given) ∧
    ((∃ key, StorageKey.derive registry pallet item keys = .ok key) ↔
      ∃ entry, registry.Lists pallet item entry ∧ entry.hashers.length = keys.length) ∧
    (∀ others : List Bytes, others.length = keys.length →
      (∃ key other, StorageKey.derive registry pallet item keys = .ok key ∧
        StorageKey.derive registry pallet item others = .ok other) ∨
      ∃ error, StorageKey.derive registry pallet item keys = .error error ∧
        StorageKey.derive registry pallet item others = .error error) ∧
    ∀ key, StorageKey.derive registry pallet item keys = .ok key →
      ∃ entry part, registry.Lists pallet item entry ∧
        StorageKey.Layered registry pallet item keys entry key part := by
  refine ⟨StorageKey.derive_eq_unknownPallet_iff, StorageKey.derive_eq_unknownStorage_iff, ?_, ?_,
    ?_, ?_⟩
  · intro declared given
    exact StorageKey.derive_eq_keyCount_iff
  · constructor
    · rintro ⟨key, derived⟩
      obtain ⟨entry, listed, counted, -⟩ := StorageKey.derive_eq_ok_iff.mp derived
      exact ⟨entry, listed, counted⟩
    · rintro ⟨entry, listed, counted⟩
      exact ⟨_, StorageKey.derive_eq_ok_iff.mpr ⟨entry, listed, counted, rfl⟩⟩
  · intro others
    exact StorageKey.derive_of_length_eq
  · intro key
    exact StorageKey.exists_layered

/-- An app is found by its owner and its number, so with one argument there is no key; with two of
any lengths there is one, and it grows by the owner first and the number second. -/
theorem derivation_decided_by_registry_apps :
    StorageKey.derive Registry.builtin "WeteeApp" "TEEApps" [[1, 2]] =
        .error (.keyCount "WeteeApp" "TEEApps" 2 1) ∧
      ∃ key, StorageKey.derive Registry.builtin "WeteeApp" "TEEApps" [[1, 2], [3]] = .ok key ∧
        (∃ entry part, Registry.builtin.Lists "WeteeApp" "TEEApps" entry ∧
          StorageKey.Layered Registry.builtin "WeteeApp" "TEEApps" [[1, 2], [3]] entry key part) ∧
        ∃ other, StorageKey.derive Registry.builtin "WeteeApp" "TEEApps" [[], [4]] = .ok other := by
  have listed := Registry.storageItem_eq_ok_iff_lists.mp
    (rfl : Registry.builtin.storageItem "WeteeApp" "TEEApps" = .ok _)
  obtain ⟨-, -, miscounted, -⟩ :=
    derivation_decided_by_registry Registry.builtin "WeteeApp" "TEEApps" [[1, 2]]
  obtain ⟨-, -, -, exact, alike, layered⟩ :=
    derivation_decided_by_registry Registry.builtin "WeteeApp" "TEEApps" [[1, 2], [3]]
  obtain ⟨key, derived⟩ := exact.mpr ⟨_, listed, rfl⟩
  refine ⟨(miscounted 2 1).mpr ⟨_, listed, rfl, rfl, by decide⟩, key, derived,
    layered key derived, ?_⟩
  rcases alike [[], [4]] rfl with ⟨_, other, -, found⟩ | ⟨error, failed, -⟩
  · exact ⟨other, found⟩
  · rw [derived] at failed
    cases failed

end EnclaveChain
