import EnclaveChain.Call.Runtime
import EnclaveChain.Error
import EnclaveChain.Registry.Builtin
import EnclaveChain.Registry.Document

/-!
# Looking things up in a registry

Lookups that must succeed, with the error that says what was not found. A registry is loaded from
a text by reading it and then asking whether it is consistent.
-/
namespace EnclaveChain

namespace Registry

/-- The pallet of a name. -/
def pallet (registry : Registry) (name : String) : Except Error PalletEntry :=
  match registry.pallet? name with
  | some entry => .ok entry
  | none => .error (.unknownPallet name)

/-- The storage item of a name in the pallet of a name. -/
def storageItem (registry : Registry) (pallet item : String) : Except Error StorageEntry :=
  match registry.pallet pallet with
  | .error fault => .error fault
  | .ok entry =>
    match entry.item? item with
    | some entry => .ok entry
    | none => .error (.unknownStorage pallet item)

/-- The call of an index in the pallet of an index. -/
def callAt (registry : Registry) (pallet call : UInt8) : Except Error (PalletEntry × CallEntry) :=
  match registry.palletAt? pallet with
  | none => .error (.unknownCall pallet call)
  | some entry =>
    match entry.callAt? call with
    | none => .error (.unknownCall pallet call)
    | some found => .ok (entry, found)

/-- A consistent registry from a text. -/
def load (text : String) : Except Error Registry :=
  match parse text with
  | .error fault => .error (.json fault)
  | .ok registry =>
    match registry.validate with
    | .error fault => .error (.registry fault)
    | .ok () => .ok registry

end Registry

namespace RuntimeCall

/-- The names that a registry gives to the pallet and the call of a call. -/
def describe (call : RuntimeCall) (registry : Registry) : Except Error (String × String) :=
  match registry.callAt call.indices.1 call.indices.2 with
  | .error fault => .error fault
  | .ok (pallet, entry) => .ok (pallet.name, entry.name)

/-- The encoding of a call in hexadecimal digits. -/
def hex (call : RuntimeCall) : String := Hex.encode0x call.encode

end RuntimeCall

end EnclaveChain
