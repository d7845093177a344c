import EnclaveChain.Json.Reader
import EnclaveChain.Json.Shape
import EnclaveChain.Json.Writer
import EnclaveChain.Registry.Basic

/-!
# Registries as JSON

A registry is read from a JSON text by the shapes of its records and written with all fields in
the same order. Lists and defaults may be left out when they are empty; a default is given by its
hexadecimal digits.
-/
namespace EnclaveChain

open Json

/-- Reads a number of 8 bits. -/
def readByte (tree : Tree) : Reading UInt8 := (readNatural 8 tree).map UInt8.ofNat

/-- Reads the hexadecimal digits of a default. -/
def readDefault (tree : Tree) : Reading Bytes :=
  match readString tree with
  | .error fault => .error fault
  | .ok text =>
    match Hex.decodeText text with
    | .error fault => .error (.mismatch (.hex fault))
    | .ok bytes => .ok bytes

namespace Modifier

/-- Reads a modifier by its name. -/
def read : Tree → Reading Modifier :=
  readVariant ([optional, .default].map fun modifier => (modifier.name, modifier))

end Modifier

namespace Hasher

/-- Reads a hasher by its name. -/
def read : Tree → Reading Hasher := readVariant (all.map fun hasher => (hasher.name, hasher))

end Hasher

namespace ArgumentEntry

/-- Reads an argument. -/
def read (tree : Tree) : Reading ArgumentEntry :=
  let shape := Shape.field "name" readString none <| .field "ty" readString none .done
  (shape.read "ArgMetadata" tree).map fun (name, type, ()) => ⟨name, type⟩

/-- An argument as a tree. -/
def toTree (entry : ArgumentEntry) : Tree :=
  .ofFields [("name", .ofString entry.name), ("ty", .ofString entry.type)]

end ArgumentEntry

namespace CallEntry

/-- Reads a call. -/
def read (tree : Tree) : Reading CallEntry :=
  let shape := Shape.field "name" readString none <| .field "index" readByte none <|
    .field "args" (readList ArgumentEntry.read) (some []) .done
  (shape.read "CallMetadata" tree).map fun (name, index, args, ()) => ⟨name, index, args⟩

/-- A call as a tree. -/
def toTree (entry : CallEntry) : Tree :=
  .ofFields [("name", .ofString entry.name), ("index", .ofNat entry.index.toNat),
    ("args", .array (entry.args.map ArgumentEntry.toTree))]

end CallEntry

namespace StorageEntry

/-- Reads a storage item. -/
def read (tree : Tree) : Reading StorageEntry :=
  let shape := Shape.field "name" readString none <| .field "modifier" Modifier.read none <|
    .field "hashers" (readList Hasher.read) (some []) <|
    .field "key_ty" (readList readString) (some []) <| .field "value_ty" readString none <|
    .field "default" readDefault (some []) .done
  (shape.read "StorageEntryMetadata" tree).map
    fun (name, modifier, hashers, keyTypes, valueType, default, ()) =>
      ⟨name, modifier, hashers, keyTypes, valueType, default⟩

/-- A storage item as a tree. -/
def toTree (entry : StorageEntry) : Tree :=
  .ofFields [("name", .ofString entry.name), ("modifier", .ofString entry.modifier.name),
    ("hashers", .array (entry.hashers.map fun hasher => .ofString hasher.name)),
    ("key_ty", .array (entry.keyTypes.map .ofString)), ("value_ty", .ofString entry.valueType),
    ("default", .ofString (Hex.encode0x entry.default))]

end StorageEntry

namespace PalletEntry

/-- Reads a pallet. -/
def read (tree : Tree) : Reading PalletEntry :=
  let shape := Shape.field "name" readString none <| .field "index" readByte none <|
    .field "calls" (readList CallEntry.read) (some []) <|
    .field "storage" (readList StorageEntry.read) (some []) .done
  (shape.read "PalletMetadata" tree).map
    fun (name, index, calls, storage, ()) => ⟨name, index, calls, storage⟩

/-- A pallet as a tree. -/
def toTree (entry : PalletEntry) : Tree :=
  .ofFields [("name", .ofString entry.name), ("index", .ofNat entry.index.toNat),
    ("calls", .array (entry.calls.map CallEntry.toTree)),
    ("storage", .array (entry.storage.map StorageEntry.toTree))]

end PalletEntry

namespace Registry

/-- Reads a registry. -/
def read (tree : Tree) : Reading Registry :=
  let shape := Shape.field "spec_version" (readNatural 32) none <|
    .field "pallets" (readList PalletEntry.read) none .done
  (shape.read "Metadata" tree).map
    fun (specVersion, pallets, ()) => ⟨UInt32.ofNat specVersion, pallets⟩

/-- Reads a registry from a text, without asking whether it is consistent. -/
def parse (text : String) : Reading Registry := (Document.ofText text).read read

/-- A registry as a tree. -/
def toTree (registry : Registry) : Tree :=
  .ofFields [("spec_version", .ofNat registry.specVersion.toNat),
    ("pallets", .array (registry.pallets.map PalletEntry.toTree))]

/-- The text of a registry. -/
def text (registry : Registry) : String := registry.toTree.text

end Registry

end EnclaveChain
