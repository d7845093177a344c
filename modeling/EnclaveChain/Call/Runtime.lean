import EnclaveChain.Call.Base
import EnclaveChain.Call.Enclave
import EnclaveChain.Chain.Pallet

/-!
# Calls of the runtime

A call of any pallet. Its encoding opens with two bytes, the index of its pallet and the index of
the call in that pallet, and goes on with the arguments.
-/
namespace EnclaveChain

open Scale

/-- A call of one of the pallets. -/
inductive RuntimeCall where
  /-- A system call. -/
  | system (call : SystemCall)
  /-- A clock call. -/
  | timestamp (call : TimestampCall)
  /-- A token call. -/
  | balances (call : BalancesCall)
  /-- A call of the message queue. -/
  | xcmpQueue (call : QueueCall)
  /-- A cluster call. -/
  | worker (call : ClusterCall)
  /-- A call about an app. -/
  | app (call : ServiceCall)
  /-- A call about a task. -/
  | task (call : TaskCall)
  /-- A call about a GPU job. -/
  | gpu (call : ServiceCall)
  /-- A call about secret-sharing nodes. -/
  | dsecret (call : SecretCall)
  /-- A bridge call. -/
  | bridge (call : BridgeCall)
deriving DecidableEq

namespace RuntimeCall

/-- Calls of the runtime as a choice. -/
def variants :
    Iso (SystemCall ⊕ TimestampCall ⊕ BalancesCall ⊕ QueueCall ⊕ ClusterCall ⊕ ServiceCall ⊕
      TaskCall ⊕ ServiceCall ⊕ SecretCall ⊕ BridgeCall ⊕ Empty) RuntimeCall where
  make
    | .at0 call => .system call
    | .at1 call => .timestamp call
    | .at2 call => .balances call
    | .at3 call => .xcmpQueue call
    | .at4 call => .worker call
    | .at5 call => .app call
    | .at6 call => .task call
    | .at7 call => .gpu call
    | .at8 call => .dsecret call
    | .at9 call => .bridge call
  parts
    | .system call => .at0 call
    | .timestamp call => .at1 call
    | .balances call => .at2 call
    | .xcmpQueue call => .at3 call
    | .worker call => .at4 call
    | .app call => .at5 call
    | .task call => .at6 call
    | .gpu call => .at7 call
    | .dsecret call => .at8 call
    | .bridge call => .at9 call
  make_parts := by intro call; cases call <;> rfl
  parts_make
    | .at0 _ | .at1 _ | .at2 _ | .at3 _ | .at4 _ | .at5 _ | .at6 _ | .at7 _ | .at8 _ | .at9 _ => rfl

/-- Layout of a call; the tag of a variant is the index of its pallet. -/
def schema : Schema RuntimeCall :=
  .via variants <| .choice "RuntimeCall" <|
    .payload 0 "System" SystemCall.schema <|
    .payload 2 "Timestamp" TimestampCall.schema <|
    .payload 10 "Balances" BalancesCall.schema <|
    .payload 30 "XcmpQueue" QueueCall.schema <|
    .payload 50 "WeteeWorker" ClusterCall.schema <|
    .payload 51 "WeteeApp" ServiceCall.schema <|
    .payload 52 "WeteeTask" TaskCall.schema <|
    .payload 53 "WeteeGpu" ServiceCall.schema <|
    .payload 54 "WeteeDsecret" SecretCall.schema <|
    .payload 55 "WeteeBridge" BridgeCall.schema .none

/-- The bytes of a call. -/
def encode (call : RuntimeCall) : Bytes := schema.encode call

/-- Reads a call from the front of a byte string. -/
def decode : Decoder RuntimeCall := schema.decode

/-- The pallet that a call belongs to. -/
def pallet : RuntimeCall → Pallet
  | system _ => .system
  | timestamp _ => .timestamp
  | balances _ => .balances
  | xcmpQueue _ => .xcmpQueue
  | worker _ => .worker
  | app _ => .app
  | task _ => .task
  | gpu _ => .gpu
  | dsecret _ => .dsecret
  | bridge _ => .bridge

/-- The index of the pallet and of the call in it, the first two bytes of the encoding. -/
def indices (call : RuntimeCall) : UInt8 × UInt8 :=
  match call.encode with
  | pallet :: index :: _ => (pallet, index)
  | _ => (0, 0)

end RuntimeCall

end EnclaveChain
