import EnclaveChain.Storage.Reader

/-!
# Nodes

A node holds the state of some blocks, one of them the latest that is final. A client reaches it
over a network, asks it for the version of its runtime once, and then for the bytes of keys at
blocks. A node may refuse any kind of request.
-/
namespace EnclaveChain

/-- A kind of request to a node. -/
inductive Request where
  /-- The latest final block. -/
  | finalizedHead
  /-- The version of the runtime. -/
  | runtimeVersion
  /-- The bytes of a key. -/
  | storage
deriving DecidableEq, Repr

/-- The state of a node. -/
structure Node where
  /-- The latest final block. -/
  latest : Hash
  /-- What is stored at each block that the node knows. -/
  blocks : List (Hash × Layer)
  /-- The code and text by which a kind of request is refused, if it is. -/
  refusal? : Request → Option (Int × String)

namespace Node

/-- Lets a request through, or answers with its refusal. -/
def permit (node : Node) (request : Request) : Except Error Unit :=
  match node.refusal? request with
  | some (code, message) => .error (.node (.answered code message))
  | none => .ok ()

/-- The latest final block. -/
def finalizedHead (node : Node) : Except Error Hash := do
  node.permit .finalizedHead
  return node.latest

/-- The bytes of a key at a block that the node must know. -/
def storageAt (node : Node) (block : Hash) (key : StorageKey) : Except Error (Option Bytes) := do
  node.permit .storage
  match node.blocks.find? fun entry => entry.1 = block with
  | some entry => return entry.2.get? key
  | none => .error (.node (.answered 4003 "Client error: unknown block"))

/-- A node as a source of stored bytes: the latest block is the latest final one. -/
def backend (node : Node) : Backend := fun key block => do
  let block ←
    match block with
    | some block => pure block
    | none => Traced.ofExcept node.finalizedHead
  Traced.record (.querying key block)
  let value ← Traced.ofExcept (node.storageAt block key)
  Traced.record (.present key value.isSome)
  return value

end Node

/-- Where each URL leads. -/
abbrev Network := String → Except NodeFault Node

namespace Network

/-- A network that leads nowhere. -/
def offline : Network := fun _ => .error .unreachable

/-- Opens a connection to a place where what is sent stays private, and asks the node who it is. -/
def dial (network : Network) (url : String) : Except Error Node :=
  match Url.ofText url with
  | .error fault => .error (.node (.badUrl fault))
  | .ok place =>
    if place.isPrivate = false then .error (.node (.insecure url))
    else if place.isSocket = false then .error (.node (.unsupported place.scheme))
    else
      match network url with
      | .error fault => .error (.node fault)
      | .ok node => do
        let _ ← node.finalizedHead
        node.permit .runtimeVersion
        return node

/-- Opens a connection and leaves records of it. -/
def connect (network : Network) (url : String) : Traced Node := do
  Traced.record (.connecting url)
  let node ← Traced.ofExcept (network.dial url)
  Traced.record .connected
  return node

end Network

end EnclaveChain
