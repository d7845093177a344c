import EnclaveChain.Proofs.CommandLine.ShownKey
import EnclaveChain.Proofs.Json.Place
import EnclaveChain.Proofs.Registry.Consistency
import EnclaveChain.Proofs.Text.HexFault

/-!
# Digits in defaults and on the command line

A default in the text of a registry is read as an argument on the command line is. The default of
an item is one place in the tree of a registry, inside of the records and lists around it, so the
registry is read as its digits are (`DefaultPlace.threads`), and where the item needs no default it
stays consistent whatever they spell.
-/
namespace EnclaveChain

open Json

/-- Bytes of the right number are those of a byte string of this size. -/
theorem FixedBytes.ofList?_eq_some_iff {size : Nat} {bytes : Bytes} {fixed : FixedBytes size} :
    ofList? size bytes = some fixed ↔ bytes = fixed.toList := by
  unfold ofList?
  split_ifs with sized
  · rw [Option.some.injEq]
    exact ⟨fun same => congrArg toList same, fun same => ext same⟩
  · simp only [false_iff]
    rintro rfl
    exact sized fixed.length_eq

/-! ### Replacing a default -/

/-- An item with another default. -/
def StorageEntry.withDefault (entry : StorageEntry) (bytes : Bytes) : StorageEntry :=
  { entry with default := bytes }

/-- A pallet with another default of the item at a position. -/
def PalletEntry.withDefault (pallet : PalletEntry) (item : Nat) (bytes : Bytes) : PalletEntry :=
  { pallet with storage := pallet.storage.modify item (·.withDefault bytes) }

/-- A registry with another default of the item at a position of the pallet at a position. -/
def Registry.withDefault (registry : Registry) (pallet item : Nat) (bytes : Bytes) : Registry :=
  { registry with pallets := registry.pallets.modify pallet (·.withDefault item bytes) }

/-- Changing the element at a position is putting another one there. -/
theorem modify_eq_set {α : Type} {list : List α} {position : Nat} {element : α}
    (listed : list[position]? = some element) (change : α → α) :
    list.modify position change = list.set position (change element) := by
  rw [List.modify_eq_set_getElem?, listed]
  rfl

/-- An element that is put where it is changes nothing that is made of the elements. -/
theorem map_set_same {α β : Type} {list : List α} {position : Nat} {element other : α}
    (listed : list[position]? = some element) {make : α → β} (same : make other = make element) :
    (list.set position other).map make = list.map make := by
  obtain ⟨bound, rfl⟩ := List.getElem?_eq_some_iff.mp listed
  have kept : (list.map make).set position (make list[position]) = list.map make := by
    have inside : position < (list.map make).length := by simpa using bound
    have mapped : make list[position] = (list.map make)[position] := by simp
    rw [mapped, List.set_getElem_self]
  rw [List.map_set, same, kept]

/-- What changes nothing where it is put was there. -/
theorem eq_of_set_eq_self {α : Type} {list : List α} {position : Nat} {element listed : α}
    (same : list.set position element = list) (found : list[position]? = some listed) :
    element = listed := by
  have bound := (List.getElem?_eq_some_iff.mp found).1
  rw [← same, List.getElem?_set_self bound] at found
  exact Option.some.inj found

/-- An item that may be absent is consistent with any default. -/
theorem StorageEntry.IsConsistent.withDefault {entry : StorageEntry}
    (consistent : entry.IsConsistent) (optional : entry.modifier = .optional) (bytes : Bytes) :
    (entry.withDefault bytes).IsConsistent where
  keyCount := consistent.keyCount
  defaultBytes kind := by
    have unlike : (entry.withDefault bytes).modifier = .optional := optional
    rw [unlike] at kind
    cases kind

/-- So is its pallet. -/
theorem PalletEntry.IsConsistent.withDefault {pallet : PalletEntry} {entry : StorageEntry}
    {item : Nat} (consistent : pallet.IsConsistent) (listed : pallet.storage[item]? = some entry)
    (optional : entry.modifier = .optional) (bytes : Bytes) :
    (pallet.withDefault item bytes).IsConsistent := by
  have replaced : (pallet.withDefault item bytes).storage =
      pallet.storage.set item (entry.withDefault bytes) := modify_eq_set listed _
  have names : (pallet.withDefault item bytes).storage.map (·.name) =
      pallet.storage.map (·.name) := by
    rw [replaced]
    exact map_set_same listed rfl
  refine ⟨consistent.callNames, consistent.callIndices, names ▸ consistent.itemNames, ?_⟩
  intro other member
  rw [replaced] at member
  rcases List.mem_or_eq_of_mem_set member with kept | rfl
  · exact consistent.items other kept
  · exact (consistent.items entry (List.mem_of_getElem? listed)).withDefault optional bytes

/-- So is its registry. -/
theorem Registry.IsConsistent.withDefault {registry : Registry} {pallet : PalletEntry}
    {entry : StorageEntry} {position item : Nat} (consistent : registry.IsConsistent)
    (found : registry.pallets[position]? = some pallet)
    (listed : pallet.storage[item]? = some entry) (optional : entry.modifier = .optional)
    (bytes : Bytes) : (registry.withDefault position item bytes).IsConsistent := by
  have replaced : (registry.withDefault position item bytes).pallets =
      registry.pallets.set position (pallet.withDefault item bytes) := modify_eq_set found _
  have names : (registry.withDefault position item bytes).pallets.map (·.name) =
      registry.pallets.map (·.name) := by
    rw [replaced]
    exact map_set_same found rfl
  have indices : (registry.withDefault position item bytes).pallets.map (·.index) =
      registry.pallets.map (·.index) := by
    rw [replaced]
    exact map_set_same found rfl
  refine ⟨names ▸ consistent.palletNames, indices ▸ consistent.palletIndices, ?_⟩
  intro other member
  rw [replaced] at member
  rcases List.mem_or_eq_of_mem_set member with kept | rfl
  · exact consistent.pallets other kept
  · exact (consistent.pallets pallet (List.mem_of_getElem? found)).withDefault listed optional bytes

/-! ### The place of a default -/

/-- A default is read by its digits. -/
theorem readDefault_ofString (digits : String) :
    readDefault (.ofString digits) =
      (Hex.decodeText digits).mapError fun fault => .mismatch (.hex fault) := by
  rw [Tree.ofString, readDefault, readString]
  cases found : Hex.decodeText digits <;> simp only [found] <;> rfl

/-- A JSON text is parsed as its value is read. -/
theorem Registry.parse_eq_read {text : String} {tree : Tree} (valued : tree.IsValueOf text) :
    Registry.parse text = Registry.read tree := by
  rw [Registry.parse, valued.ofText, Document.read]
  cases Registry.read tree <;> rfl

/-- The list of pallets is a place of a registry. -/
theorem Registry.threads_pallets {around : Surrounding} {part : Tree} {registry : Registry}
    (given : around.Gives (Registry.fields.map (·.name)) "pallets")
    (done : Registry.read (around.fill part) = .ok registry) :
    Threads Registry.read around.fill (readList PalletEntry.read)
      fun pallets => { registry with pallets := pallets } := by
  have selects : Shape.Selects "pallets" (readList PalletEntry.read)
      (.field "spec_version" (readNatural 32) none <|
        .field "pallets" (readList PalletEntry.read) none .done) _ _ :=
    .there (by decide) .here
  exact selects.threads_map
    (fun pallets (registry : Registry) => { registry with pallets := pallets })
    (fun _ _ => rfl) given done

/-- The list of items is a place of a pallet. -/
theorem PalletEntry.threads_storage {around : Surrounding} {part : Tree} {pallet : PalletEntry}
    (given : around.Gives (PalletEntry.fields.map (·.name)) "storage")
    (done : PalletEntry.read (around.fill part) = .ok pallet) :
    Threads PalletEntry.read around.fill (readList StorageEntry.read)
      fun storage => { pallet with storage := storage } := by
  have selects : Shape.Selects "storage" (readList StorageEntry.read)
      (.field "name" readString none <| .field "index" readByte none <|
        .field "calls" (readList CallEntry.read) (some []) <|
        .field "storage" (readList StorageEntry.read) (some []) .done) _ _ :=
    .there (by decide) <| .there (by decide) <| .there (by decide) .here
  exact selects.threads_map
    (fun storage (pallet : PalletEntry) => { pallet with storage := storage })
    (fun _ _ => rfl) given done

/-- The default is a place of an item. -/
theorem StorageEntry.threads_default {around : Surrounding} {part : Tree} {entry : StorageEntry}
    (given : around.Gives (StorageEntry.fields.map (·.name)) "default")
    (done : StorageEntry.read (around.fill part) = .ok entry) :
    Threads StorageEntry.read around.fill readDefault entry.withDefault := by
  have selects : Shape.Selects "default" readDefault
      (.field "name" readString none <| .field "modifier" Modifier.read none <|
        .field "hashers" (readList Hasher.read) (some []) <|
        .field "key_ty" (readList readString) (some []) <| .field "value_ty" readString none <|
        .field "default" readDefault (some []) .done) _ _ :=
    .there (by decide) <| .there (by decide) <| .there (by decide) <| .there (by decide) <|
      .there (by decide) .here
  exact selects.threads_map (fun bytes (entry : StorageEntry) => entry.withDefault bytes)
    (fun _ _ => rfl) given done

/-- The place of a default in the tree of a registry: what stands around it, from the whole registry
to the item. -/
structure DefaultPlace where
  /-- The registry, around the list of its pallets. -/
  registry : Surrounding
  /-- The pallets before that of the item. -/
  palletsBefore : List Tree
  /-- The pallets after it. -/
  palletsAfter : List Tree
  /-- The pallet, around the list of its items. -/
  pallet : Surrounding
  /-- The items before the item. -/
  itemsBefore : List Tree
  /-- The items after it. -/
  itemsAfter : List Tree
  /-- The item, around its default. -/
  item : Surrounding
  /-- The list of pallets is given. -/
  pallets_given : registry.Gives (Registry.fields.map (·.name)) "pallets"
  /-- The list of items is given. -/
  storage_given : pallet.Gives (PalletEntry.fields.map (·.name)) "storage"
  /-- The default is given. -/
  default_given : item.Gives (StorageEntry.fields.map (·.name)) "default"

namespace DefaultPlace

variable (place : DefaultPlace)

/-- The tree of the pallets, with a part in the place of the default. -/
def fillPallets (part : Tree) : Tree :=
  (Surrounding.item place.palletsBefore place.palletsAfter).fill <|
    place.pallet.fill <| (Surrounding.item place.itemsBefore place.itemsAfter).fill <|
      place.item.fill part

/-- The tree of the registry, with a part in the place of the default. -/
def fill (part : Tree) : Tree := place.registry.fill (place.fillPallets part)

variable {place}

/-- A registry is read as the part in the place of a default is. -/
theorem threads {registry : Registry} {part : Tree}
    (done : Registry.read (place.fill part) = .ok registry) {pallet : PalletEntry}
    {entry : StorageEntry} (found : registry.pallets[place.palletsBefore.length]? = some pallet)
    (listed : pallet.storage[place.itemsBefore.length]? = some entry) :
    Threads Registry.read place.fill readDefault
      (registry.withDefault place.palletsBefore.length place.itemsBefore.length) := by
  have whole := Registry.threads_pallets place.pallets_given done
  obtain ⟨pallets, readPallets, kept⟩ := whole.exists_part done
  obtain rfl : pallets = registry.pallets := congrArg Registry.pallets kept
  have among := threads_readList readPallets
  obtain ⟨first, readPallet, kept⟩ := among.exists_part readPallets
  obtain rfl : first = pallet := eq_of_set_eq_self kept found
  have one := PalletEntry.threads_storage place.storage_given readPallet
  obtain ⟨storage, readStorage, kept⟩ := one.exists_part readPallet
  obtain rfl : storage = first.storage := congrArg PalletEntry.storage kept
  have within := threads_readList readStorage
  obtain ⟨item, readItem, kept⟩ := within.exists_part readStorage
  obtain rfl : item = entry := eq_of_set_eq_self kept listed
  have default := StorageEntry.threads_default place.default_given readItem
  have all := whole.comp (among.comp (one.comp (within.comp default)))
  have put (bytes : Bytes) :
      registry.withDefault place.palletsBefore.length place.itemsBefore.length bytes =
        { registry with
          pallets := registry.pallets.set place.palletsBefore.length { first with
            storage := first.storage.set place.itemsBefore.length (item.withDefault bytes) } } := by
    rw [Registry.withDefault, modify_eq_set found, PalletEntry.withDefault, modify_eq_set listed]
  rw [funext put]
  exact all

/-- A registry whose default at a place is free: with some digits there, some text of it is loaded,
and the item is one that may be absent. -/
structure Frees (place : DefaultPlace) (registry : Registry) : Prop where
  /-- With some digits at the place a text of the tree is loaded. -/
  loads : ∃ sample text, (place.fill (.ofString sample)).IsValueOf text ∧
    Registry.load text = .ok registry
  /-- The item may be absent. -/
  optional : ∃ pallet entry, registry.pallets[place.palletsBefore.length]? = some pallet ∧
    pallet.storage[place.itemsBefore.length]? = some entry ∧ entry.modifier = .optional

/-- The registry with another default at a place. -/
def replaced (place : DefaultPlace) (registry : Registry) (bytes : Bytes) : Registry :=
  registry.withDefault place.palletsBefore.length place.itemsBefore.length bytes

/-- The default at the place is the one that was put there. -/
theorem Frees.replaced_inj {registry : Registry} (frees : place.Frees registry)
    {left right : Bytes} (same : place.replaced registry left = place.replaced registry right) :
    left = right := by
  obtain ⟨pallet, entry, found, listed, -⟩ := frees.optional
  have shown (bytes : Bytes) :
      ((place.replaced registry bytes).pallets[place.palletsBefore.length]?.bind
        (·.storage[place.itemsBefore.length]?)).map (·.default) = some bytes := by
    have outside := (List.getElem?_eq_some_iff.mp found).1
    have inside := (List.getElem?_eq_some_iff.mp listed).1
    rw [replaced, Registry.withDefault, modify_eq_set found]
    simp only [List.getElem?_set_self outside, Option.bind_some, PalletEntry.withDefault,
      modify_eq_set listed, List.getElem?_set_self inside, Option.map_some,
      StorageEntry.withDefault]
  have defaults := shown left
  rw [same, shown right] at defaults
  exact (Option.some.inj defaults).symm

/-- A text of a registry is loaded as the digits at a free place are read. -/
theorem Frees.load_eq {registry : Registry} (frees : place.Frees registry) {digits text : String}
    (valued : (place.fill (.ofString digits)).IsValueOf text) :
    Registry.load text =
      match Hex.decodeText digits with
      | .ok bytes => .ok (place.replaced registry bytes)
      | .error fault => .error (.json (.mismatch (.hex fault))) := by
  obtain ⟨sample, original, originalValued, loaded⟩ := frees.loads
  obtain ⟨pallet, entry, found, listed, optional⟩ := frees.optional
  obtain ⟨parsed, valid⟩ := (Registry.load_eq_ok_iff original registry).mp loaded
  rw [Registry.parse_eq_read originalValued] at parsed
  have read : Registry.parse text =
      (readDefault (.ofString digits)).map (place.replaced registry) := by
    rw [Registry.parse_eq_read valued]
    exact threads parsed found listed (.ofString digits)
  rw [Registry.load, read, readDefault_ofString]
  cases Hex.decodeText digits with
  | error fault => rfl
  | ok bytes =>
    have consistent := Registry.validate_eq_ok_iff.mp valid
    have still : (place.replaced registry bytes).validate = .ok () :=
      Registry.validate_eq_ok_iff.mpr (consistent.withDefault found listed optional bytes)
    simp only [Except.mapError, Except.map, still]

end DefaultPlace

open CommandLine

/-- The hash of a block is read as an argument of its size is. -/
theorem blockHash_eq_ok_iff {text : String} {hash : Hash} :
    blockHash text = .ok hash ↔ hexValue text = .ok hash.toList := by
  rw [blockHash]
  cases hexValue text with
  | error reason => simp
  | ok bytes =>
    rw [Except.ok.injEq, ← FixedBytes.ofList?_eq_some_iff]
    simp only
    cases FixedBytes.ofList? 32 bytes <;> simp

/-- Hexadecimal digits are read alike everywhere. An argument is read as bytes exactly if it is an
optional mark and two digits for each byte, and else it has one fault. At a place in a text of a
registry where the default of an item stands that may be absent, any digits are read as the same
bytes, which the registry then has there, or refused for the same fault. A hash of a block is an
argument of 32 bytes. And what is written as a key, as a call or as a default is read as the bytes
it was written from. -/
theorem hex_read_alike :
    (∀ text bytes, hexValue text = .ok bytes ↔ Hex.SpelledBy bytes text) ∧
    (∀ text, (∃ bytes, hexValue text = .ok bytes) ∨ ∃ fault, Hex.Blames text fault) ∧
    (∀ (place : DefaultPlace) (registry : Registry) (digits text : String),
      place.Frees registry → (place.fill (.ofString digits)).IsValueOf text →
      (∀ bytes, Registry.load text = .ok (place.replaced registry bytes) ↔
        hexValue digits = .ok bytes) ∧
      (∀ other, Registry.load text = .ok other →
        ∃ bytes, hexValue digits = .ok bytes ∧ other = place.replaced registry bytes) ∧
      ∀ fault, Hex.Blames digits fault →
        hexValue digits = .error ("Invalid hex value " ++ digits ++ ": " ++ fault.message) ∧
        Registry.load text = .error (.json (.mismatch (.hex fault)))) ∧
    (∀ text (hash : Hash), blockHash text = .ok hash ↔ hexValue text = .ok hash.toList) ∧
    (∀ key : StorageKey, hexValue key.text = .ok key.bytes) ∧
    (∀ call : RuntimeCall, hexValue call.hex = .ok call.encode) ∧
    ∀ entry : StorageEntry, ∃ members text, entry.toTree = .ofFields members ∧
      members.lookup "default" = some (.ofString text) ∧ hexValue text = .ok entry.default ∧
      readDefault (.ofString text) = .ok entry.default := by
  have written (bytes : Bytes) : hexValue (Hex.encode0x bytes) = .ok bytes :=
    hexValue_eq_ok_iff.mpr (Hex.spelledBy_encode0x bytes)
  have value (text : String) (bytes : Bytes) :
      hexValue text = .ok bytes ↔ Hex.decodeText text = .ok bytes := by
    rw [hexValue_eq_ok_iff, Hex.decodeText_eq_ok_iff]
  refine ⟨fun _ _ => hexValue_eq_ok_iff, ?_, ?_, fun _ _ => blockHash_eq_ok_iff,
    fun key => written key.bytes, fun call => written call.encode, ?_⟩
  · intro text
    simpa only [hexValue_eq_ok_iff] using Hex.spells_or_blamed text
  · intro place registry digits text frees valued
    have loaded := frees.load_eq valued
    refine ⟨?_, ?_, ?_⟩
    · intro bytes
      rw [value, loaded]
      cases Hex.decodeText digits with
      | error fault => simp
      | ok found =>
        simp only [Except.ok.injEq]
        exact ⟨frees.replaced_inj, congrArg _⟩
    · intro other accepted
      rw [loaded] at accepted
      cases read : Hex.decodeText digits with
      | error fault => simp [read] at accepted
      | ok bytes =>
        rw [read] at accepted
        exact ⟨bytes, (value digits bytes).mpr read, (Except.ok.inj accepted).symm⟩
    · intro fault blames
      rw [loaded, hexValue, blames.decodeText_eq]
      exact ⟨rfl, rfl⟩
  · intro entry
    refine ⟨_, Hex.encode0x entry.default, rfl, rfl, written entry.default, ?_⟩
    rw [readDefault_ofString, (value _ _).mp (written entry.default)]
    rfl

/-- The place of the default in a registry with one item. -/
def loneDefault : DefaultPlace where
  registry := .member [(.ofString "spec_version", .ofNat 1)] "pallets" []
  palletsBefore := []
  palletsAfter := []
  pallet := .member [(.ofString "name", .ofString "Pool"), (.ofString "index", .ofNat 9)]
    "storage" []
  itemsBefore := []
  itemsAfter := []
  item := .member [(.ofString "name", .ofString "Shares"),
    (.ofString "modifier", .ofString "Optional"), (.ofString "value_ty", .ofString "u8")]
    "default" []
  pallets_given := rfl
  storage_given := rfl
  default_given := rfl

/-- The registry that is loaded with these bytes there. -/
def loneRegistry (bytes : Bytes) : Registry :=
  ⟨1, [⟨"Pool", 9, [], [⟨"Shares", .optional, [], [], "u8", bytes⟩]⟩]⟩

/-- With any digits there is a text of its tree. -/
theorem isValueOf_loneDefault (digits : String) :
    (loneDefault.fill (.ofString digits)).IsValueOf (loneDefault.fill (.ofString digits)).text := by
  have spelled : (Tree.ofFields [("spec_version", .ofNat 1), ("pallets", .array [.ofFields
      [("name", .ofString "Pool"), ("index", .ofNat 9), ("storage", .array [.ofFields
        [("name", .ofString "Shares"), ("modifier", .ofString "Optional"),
          ("value_ty", .ofString "u8"), ("default", .ofString digits)]])]])]).IsSpelled := by
    refine isSpelled_ofFields ?_
    simp only [List.forall_mem_cons, List.not_mem_nil, false_imp_iff, implies_true, and_true]
    refine ⟨isSpelled_ofNat _, isSpelled_array (List.forall_mem_singleton.mpr ?_)⟩
    refine isSpelled_ofFields ?_
    simp only [List.forall_mem_cons, List.not_mem_nil, false_imp_iff, implies_true, and_true]
    refine ⟨isSpelled_ofString _, isSpelled_ofNat _,
      isSpelled_array (List.forall_mem_singleton.mpr ?_)⟩
    refine isSpelled_ofFields ?_
    simp only [List.forall_mem_cons, List.not_mem_nil, false_imp_iff, implies_true, and_true]
    exact ⟨isSpelled_ofString _, isSpelled_ofString _, isSpelled_ofString _, isSpelled_ofString _⟩
  exact spelled.isValueOf

/-- The place is free. -/
theorem frees_loneDefault : loneDefault.Frees (loneRegistry []) where
  loads := by
    have valued := isValueOf_loneDefault "0x"
    have parsed : Registry.parse _ = .ok (loneRegistry []) :=
      (Registry.parse_eq_read valued).trans rfl
    exact ⟨"0x", _, valued, (Registry.load_eq_ok_iff _ _).mpr ⟨parsed, rfl⟩⟩
  optional := ⟨_, _, rfl, rfl, rfl⟩

/-- Digits of either case are read in both places, a second mark is no digit in either, and of a
character outside ASCII the first byte is blamed, where it stands behind the mark. -/
theorem hex_read_alike_lone :
    let text (digits : String) := (loneDefault.fill (.ofString digits)).text
    hexValue "0xaBcD" = .ok [0xab, 0xcd] ∧
      Registry.load (text "0xaBcD") = .ok (loneRegistry [0xab, 0xcd]) ∧
      hexValue "0x0x12" = .error "Invalid hex value 0x0x12: Invalid character 'x' at position 1" ∧
      Registry.load (text "0x0x12") = .error (.json (.mismatch (.hex (.badDigit 120 1)))) ∧
      Registry.load (text "0xa€") = .error (.json (.mismatch (.hex (.badDigit 226 1)))) := by
  intro text
  obtain ⟨-, -, alike, -⟩ := hex_read_alike
  have place (digits : String) := alike loneDefault (loneRegistry []) digits (text digits)
    frees_loneDefault (isValueOf_loneDefault digits)
  have blames (digits : String) (fault : Hex.Fault)
      (failed : Hex.decodeText digits = .error fault) : Hex.Blames digits fault :=
    (Hex.decodeText_eq_error_iff digits fault).mp failed
  obtain ⟨value, refused⟩ := (place "0x0x12").2.2 _ (blames _ _ rfl)
  have outside := ((place "0xa€").2.2 _ (blames _ _ rfl)).2
  have message : "Invalid hex value " ++ "0x0x12" ++ ": " ++ (Hex.Fault.badDigit 120 1).message =
      "Invalid hex value 0x0x12: Invalid character 'x' at position 1" := by decide +kernel
  have read : hexValue "0xaBcD" = .ok [0xab, 0xcd] := rfl
  exact ⟨read, ((place "0xaBcD").1 _).mpr read, message ▸ value, refused, outside⟩

end EnclaveChain
