import EnclaveChain.Registry.Lookup

/-!
# Storage keys

The key of a stored value is the hash of the name of its pallet, the hash of the name of its item,
and the hashed form of each key argument, one after the other. Keys are ordered as byte strings,
so the keys of one item stand together when they are sorted.
-/
namespace EnclaveChain

/-- The place of a value in the state of the chain. -/
structure StorageKey where
  /-- The bytes of the key. -/
  bytes : Bytes
deriving DecidableEq

namespace StorageKey

/-- The bytes that all keys of an item begin with. -/
def itemStem (pallet item : String) : Bytes :=
  Hash.XxHash.twox128 (Hex.utf8 pallet) ++ Hash.XxHash.twox128 (Hex.utf8 item)

/-- The key that all keys of an item begin with. -/
def ofItem (registry : Registry) (pallet item : String) : Except Error StorageKey :=
  match registry.storageItem pallet item with
  | .error fault => .error fault
  | .ok entry => .ok ⟨itemStem pallet entry.name⟩

/-- The hashed forms of arguments, each by the hasher at its position. -/
def hashed (hashers : List Hasher) (keys : List Bytes) : Bytes :=
  (List.zipWith Hasher.apply hashers keys).flatten

/-- The key of an entry of an item, with an argument for each of its hashers. -/
def derive (registry : Registry) (pallet item : String) (keys : List Bytes) :
    Except Error StorageKey :=
  match registry.storageItem pallet item with
  | .error fault => .error fault
  | .ok entry =>
    if entry.hashers.length = keys.length then
      .ok ⟨itemStem pallet entry.name ++ hashed entry.hashers keys⟩
    else .error (.keyCount pallet item entry.hashers.length keys.length)

/-- A key as digits. -/
def text (key : StorageKey) : String := Hex.encode0x key.bytes

/-- A key as digits between brackets, after the name of its type. -/
def labelled (key : StorageKey) : String := "StorageKey(" ++ key.text ++ ")"

/-- Keys are ordered as byte strings. -/
instance : LE StorageKey := ⟨fun left right => left.bytes ≤ right.bytes⟩

instance (left right : StorageKey) : Decidable (left ≤ right) :=
  inferInstanceAs (Decidable (left.bytes ≤ right.bytes))

/-- Keys in order. -/
def sort (keys : List StorageKey) : List StorageKey := keys.mergeSort fun left right => left ≤ right

/-- A list without the keys that repeat the one before them. -/
def squeeze : List StorageKey → List StorageKey
  | first :: second :: keys =>
    if first = second then squeeze (second :: keys) else first :: squeeze (second :: keys)
  | keys => keys

end StorageKey

end EnclaveChain
