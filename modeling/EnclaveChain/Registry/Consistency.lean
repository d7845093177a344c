import EnclaveChain.Registry.Basic

/-!
# Consistency of a registry

Names and indices must tell pallets, calls and items apart, the key types of an item must be as
many as its hashers, and an item with a default must have default bytes. A registry that breaks
one of these rules is blamed for the first element that does, in the order of its text: a pallet's
name, its index, its calls, its items.
-/
namespace EnclaveChain

/-- An element of a registry that breaks a rule. -/
inductive RegistryFault where
  /-- A second pallet of a name. -/
  | palletName (name : String)
  /-- A second pallet of an index. -/
  | palletIndex (index : UInt8)
  /-- A call whose name or index another call of the pallet has. -/
  | call (pallet : String) (call : String) (index : UInt8)
  /-- A second storage item of a name. -/
  | item (pallet item : String)
  /-- An item whose key types are not as many as its hashers. -/
  | keyCount (pallet item : String) (hashers keys : Nat)
  /-- An item with a default but no default bytes. -/
  | noDefaultBytes (pallet item : String)
deriving DecidableEq, Repr

/-- The text of a fault. -/
def RegistryFault.message : RegistryFault → String
  | palletName name => "duplicate pallet name " ++ name
  | palletIndex index => "duplicate pallet index " ++ toString index.toNat
  | call pallet name index =>
    "duplicate call " ++ pallet ++ "::" ++ name ++ " (index " ++ toString index.toNat ++ ")"
  | item pallet name => "duplicate storage item " ++ pallet ++ "::" ++ name
  | keyCount pallet name hashers keys =>
    pallet ++ "::" ++ name ++ " declares " ++ toString hashers ++ " hashers for " ++
      toString keys ++ " keys"
  | noDefaultBytes pallet name => pallet ++ "::" ++ name ++ " has no default bytes"

namespace PalletEntry

/-- The first faulty call after calls that were found good. -/
def checkCalls (pallet : String) (before : List CallEntry) :
    List CallEntry → Except RegistryFault Unit
  | [] => .ok ()
  | call :: calls =>
    if call.name ∈ before.map (·.name) ∨ call.index ∈ before.map (·.index) then
      .error (.call pallet call.name call.index)
    else checkCalls pallet (before ++ [call]) calls

/-- The first faulty item after items that were found good. -/
def checkItems (pallet : String) (before : List StorageEntry) :
    List StorageEntry → Except RegistryFault Unit
  | [] => .ok ()
  | entry :: entries =>
    if entry.name ∈ before.map (·.name) then .error (.item pallet entry.name)
    else if entry.keyTypes ≠ [] ∧ entry.keyTypes.length ≠ entry.hashers.length then
      .error (.keyCount pallet entry.name entry.hashers.length entry.keyTypes.length)
    else if entry.modifier = .default ∧ entry.default = [] then
      .error (.noDefaultBytes pallet entry.name)
    else checkItems pallet (before ++ [entry]) entries

end PalletEntry

namespace Registry

/-- The first fault of pallets after pallets that were found good. -/
def checkPallets (before : List PalletEntry) : List PalletEntry → Except RegistryFault Unit
  | [] => .ok ()
  | pallet :: pallets =>
    if pallet.name ∈ before.map (·.name) then .error (.palletName pallet.name)
    else if pallet.index ∈ before.map (·.index) then .error (.palletIndex pallet.index)
    else
      match PalletEntry.checkCalls pallet.name [] pallet.calls with
      | .error fault => .error fault
      | .ok () =>
        match PalletEntry.checkItems pallet.name [] pallet.storage with
        | .error fault => .error fault
        | .ok () => checkPallets (before ++ [pallet]) pallets

/-- The first fault of a registry, if it has one. -/
def validate (registry : Registry) : Except RegistryFault Unit := checkPallets [] registry.pallets

end Registry

end EnclaveChain
