import EnclaveChain.Json.Fault
import EnclaveChain.Registry.Consistency
import EnclaveChain.Scale.DecodeError
import EnclaveChain.Url.Basic

/-!
# Errors

Everything that can go wrong when calls are described, keys are derived and state is read. An
error is its cause; the wording is `Error.message`. Some errors wrap a cause of their own, and
`Error.causes` lists those from the nearest to the deepest.
-/
namespace EnclaveChain

/-- Why a file could not be read as text. -/
inductive FileFault where
  /-- There is no such file. -/
  | notFound
  /-- The name is that of a directory. -/
  | directory
  /-- Something on the way to the file is not a directory. -/
  | notDirectory
  /-- The file may not be read. -/
  | denied
  /-- The name holds a zero character. -/
  | badName
  /-- A part of the name is too long. -/
  | nameTooLong
  /-- The bytes are not UTF-8. -/
  | notText
deriving DecidableEq, Repr

/-- The text of a file fault. -/
def FileFault.message : FileFault → String
  | notFound => "No such file or directory (os error 2)"
  | directory => "Is a directory (os error 21)"
  | notDirectory => "Not a directory (os error 20)"
  | denied => "Permission denied (os error 13)"
  | badName => "file name contained an unexpected NUL byte"
  | nameTooLong => "File name too long (os error 36)"
  | notText => "stream did not contain valid UTF-8"

/-- Why a node gave no answer, or none but an error. -/
inductive NodeFault where
  /-- The node answered with an error. -/
  | answered (code : Int) (message : String)
  /-- The address is neither encrypted nor local. -/
  | insecure (url : String)
  /-- The address is no URL. -/
  | badUrl (fault : Url.Fault)
  /-- No node is asked in the way that the scheme of the address names. -/
  | unsupported (scheme : String)
  /-- The network does not lead to the node. -/
  | unreachable
  /-- Nothing listens at the address. -/
  | refused
deriving DecidableEq, Repr

namespace NodeFault

/-- The text of a failed attempt to open a connection. -/
def socket (reason : String) : String := "Error when opening the TCP socket: " ++ reason

/-- The texts of a fault from the outermost wrapping to the root. -/
def chain : NodeFault → List String
  | answered code message =>
    let root := message ++ " (" ++ toString code ++ ")"
    ["RPC error: User error: " ++ root, "User error: " ++ root, root]
  | insecure url => transport ["insecure URL: " ++ url]
  | badUrl fault => transport ["client error: " ++ fault.message, fault.message]
  | unsupported scheme =>
    let reason := "Invalid URL: `" ++ scheme ++ "` not supported, expects 'ws' or 'wss'"
    transport ["client error: " ++ reason, reason]
  | unreachable => connection "Network is unreachable (os error 101)"
  | refused => connection "Connection refused (os error 111)"
where
  /-- A fault found before anything was sent. -/
  transport : List String → List String
    | [] => []
    | text :: deeper => ("RPC error: RPC error: " ++ text) :: ("RPC error: " ++ text) :: deeper
  /-- A socket that could not be opened. -/
  connection (reason : String) : List String :=
    transport ["client error: " ++ socket reason, socket reason, reason]

end NodeFault

/-- Why an operation of this library failed. -/
inductive Error where
  /-- The registry has no pallet of the name. -/
  | unknownPallet (name : String)
  /-- The pallet has no storage item of the name. -/
  | unknownStorage (pallet item : String)
  /-- The registry has no call of the indices. -/
  | unknownCall (pallet call : UInt8)
  /-- The number of keys is not that of the hashers of the item. -/
  | keyCount (pallet item : String) (expected found : Nat)
  /-- The item is absent and has no default. -/
  | noDefault (pallet item : String)
  /-- The stored bytes are no value of the item. -/
  | decode (pallet item : String) (fault : Scale.DecodeError)
  /-- The default bytes are no value of the item. -/
  | defaultDecode (pallet item : String) (fault : Scale.DecodeError)
  /-- The registry is not consistent. -/
  | registry (fault : RegistryFault)
  /-- The node cannot be asked or refuses. -/
  | node (fault : NodeFault)
  /-- A file cannot be read. -/
  | file (fault : FileFault)
  /-- A text is not the JSON of a registry. -/
  | json (fault : Json.Fault)
  /-- A text is not the TOML of a configuration. -/
  | toml
deriving DecidableEq, Repr

/-- The text of a decode error and of the errors inside it, outermost first. -/
def Scale.DecodeError.chain (fault : Scale.DecodeError) : List String :=
  go fault.parts
where
  /-- The texts from the given parts on. -/
  go : List Scale.Part → List String
    | [] => [fault.cause.message]
    | part :: parts => Scale.DecodeError.message ⟨part :: parts, fault.cause⟩ :: go parts

namespace Error

/-- An item of a pallet, as messages name it. -/
def itemName (pallet item : String) : String := pallet ++ "::" ++ item

/-- The text of an error. -/
def message : Error → String
  | unknownPallet name => "Unknown pallet: " ++ name
  | unknownStorage pallet item => "Unknown storage item: " ++ itemName pallet item
  | unknownCall pallet call =>
    "Unknown call: pallet index " ++ toString pallet.toNat ++ ", call index " ++
      toString call.toNat
  | keyCount pallet item expected found =>
    itemName pallet item ++ " expects " ++ toString expected ++ " key(s), got " ++ toString found
  | noDefault pallet item => itemName pallet item ++ " has no default value"
  | decode pallet item fault =>
    "Failed to decode " ++ itemName pallet item ++ ": " ++ fault.message
  | defaultDecode pallet item fault =>
    "Failed to decode default value of " ++ itemName pallet item ++ ": " ++ fault.message
  | registry fault => "Invalid metadata: " ++ fault.message
  | node fault => "RPC error: " ++ fault.chain.headD ""
  | file fault => fault.message
  | json (.mismatch mismatch) => mismatch.message
  | json .malformed => "malformed JSON"
  | toml => "malformed TOML"

/-- The texts of the causes of an error, the nearest first. -/
def causes : Error → List String
  | decode _ _ fault | defaultDecode _ _ fault => fault.chain
  | node fault => fault.chain
  | _ => []

end Error

end EnclaveChain
