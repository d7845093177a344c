import EnclaveChain.Scale.Schema
import EnclaveChain.Storage.Key

/-!
# Storage addresses

An address names an item of a pallet and the encoded arguments of one of its entries, and knows
the layout of the value that is stored there.
-/
namespace EnclaveChain

/-- Where a value of a type is stored. -/
structure Address (Value : Type) where
  /-- Name of the pallet. -/
  pallet : String
  /-- Name of the item. -/
  item : String
  /-- The encoded arguments. -/
  keys : List Bytes
  /-- Layout of the value. -/
  schema : Scale.Schema Value

namespace Address

/-- The storage key of an address. -/
def key {Value : Type} (address : Address Value) (registry : Registry) : Except Error StorageKey :=
  StorageKey.derive registry address.pallet address.item address.keys

/-- A list of texts between square brackets. -/
def bracketed (texts : List String) : String := "[" ++ String.intercalate ", " texts ++ "]"

/-- An address with its parts named, the arguments byte by byte. -/
def text {Value : Type} (address : Address Value) : String :=
  let keys := address.keys.map fun key => bracketed (key.map fun byte => toString byte.toNat)
  "Address \x7b pallet: " ++ Text.quoted address.pallet ++ ", item: " ++
    Text.quoted address.item ++ ", keys: " ++ bracketed keys ++ " \x7d"

end Address

end EnclaveChain
