import EnclaveChain.Registry.Hasher

/-!
# Registries

A registry describes a runtime: its pallets, the calls that each of them takes and the items that
each of them stores. Names are looked up from the front, so the first of two equal names is the
one found.
-/
namespace EnclaveChain

/-- What the absence of a stored value means. -/
inductive Modifier where
  /-- There is no value. -/
  | optional
  /-- The value is the default of the item. -/
  | default
deriving DecidableEq, Repr

/-- The name of a modifier in a registry. -/
def Modifier.name : Modifier → String
  | optional => "Optional"
  | default => "Default"

/-- An argument of a call. -/
structure ArgumentEntry where
  /-- Name. -/
  name : String
  /-- Name of the type. -/
  type : String
deriving DecidableEq

/-- A call of a pallet. -/
structure CallEntry where
  /-- Name. -/
  name : String
  /-- Index in the pallet. -/
  index : UInt8
  /-- Arguments in order. -/
  args : List ArgumentEntry
deriving DecidableEq

/-- A storage item of a pallet. -/
structure StorageEntry where
  /-- Name. -/
  name : String
  /-- What absence means. -/
  modifier : Modifier
  /-- A hasher for each key. -/
  hashers : List Hasher
  /-- Names of the types of the keys. -/
  keyTypes : List String
  /-- Name of the type of the value. -/
  valueType : String
  /-- The encoded default. -/
  default : Bytes
deriving DecidableEq

/-- The default that an item declares, if it does. -/
def StorageEntry.default? (entry : StorageEntry) : Option Bytes :=
  match entry.modifier with
  | .default => some entry.default
  | .optional => none

/-- A pallet of the runtime. -/
structure PalletEntry where
  /-- Name, also the first part of its storage keys. -/
  name : String
  /-- Index in the runtime. -/
  index : UInt8
  /-- Calls. -/
  calls : List CallEntry
  /-- Storage items. -/
  storage : List StorageEntry
deriving DecidableEq

namespace PalletEntry

/-- The call of a name. -/
def call? (pallet : PalletEntry) (name : String) : Option CallEntry :=
  pallet.calls.find? (·.name = name)

/-- The call of an index. -/
def callAt? (pallet : PalletEntry) (index : UInt8) : Option CallEntry :=
  pallet.calls.find? (·.index = index)

/-- The storage item of a name. -/
def item? (pallet : PalletEntry) (name : String) : Option StorageEntry :=
  pallet.storage.find? (·.name = name)

end PalletEntry

/-- The description of a runtime. -/
structure Registry where
  /-- Version of the runtime. -/
  specVersion : UInt32
  /-- Pallets. -/
  pallets : List PalletEntry
deriving DecidableEq

namespace Registry

/-- The pallet of a name. -/
def pallet? (registry : Registry) (name : String) : Option PalletEntry :=
  registry.pallets.find? (·.name = name)

/-- The pallet of an index. -/
def palletAt? (registry : Registry) (index : UInt8) : Option PalletEntry :=
  registry.pallets.find? (·.index = index)

end Registry

end EnclaveChain
