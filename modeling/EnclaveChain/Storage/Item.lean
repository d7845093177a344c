import EnclaveChain.Chain.Cluster
import EnclaveChain.Chain.Pallet
import EnclaveChain.Storage.Address

/-!
# Storage items and slots

The items that the runtime stores, each with the layouts of its arguments and of its value. A slot
is one entry of an item: the item and the arguments it asks for. The address of a slot follows from
the layout of its item, so what holds of all slots is shown once for the layout.
-/
namespace EnclaveChain

open Scale

/-- Layout of the arguments of an item. -/
inductive KeyLayout : Type → Type 1 where
  /-- A plain value has no argument. -/
  | none : KeyLayout Unit
  /-- A map has one argument. -/
  | one {α : Type} (key : Schema α) : KeyLayout α
  /-- A double map has two arguments. -/
  | two {α β : Type} (first : Schema α) (second : Schema β) : KeyLayout (α × β)

/-- The encoded arguments of an entry. -/
def KeyLayout.encode : {α : Type} → KeyLayout α → α → List Bytes
  | _, .none, () => []
  | _, .one key, value => [key.encode value]
  | _, .two first second, (left, right) => [first.encode left, second.encode right]

/-- What an item is called, what its arguments are and what it stores. -/
structure ItemLayout : Type 1 where
  /-- The pallet that owns the item. -/
  pallet : Pallet
  /-- Name in the pallet. -/
  name : String
  /-- Type of the arguments. -/
  {Key : Type}
  /-- Layout of the arguments. -/
  keys : KeyLayout Key
  /-- Type of the value. -/
  {Value : Type}
  /-- Layout of the value. -/
  value : Schema Value

/-- An item that the runtime stores. -/
inductive StorageItem where
  /-- Number of the current block. -/
  | blockNumber
  /-- Hash of a past block. -/
  | blockHash
  /-- Number of extrinsics of the current block. -/
  | extrinsicCount
  /-- Time of the current block. -/
  | now
  /-- Number of the chain among its siblings. -/
  | parachainId
  /-- Number of tokens in existence. -/
  | totalIssuance
  /-- Block authorities. -/
  | authorities
  /-- Slot of the current block. -/
  | currentSlot
  /-- Whether the message queue stands still. -/
  | queueSuspended
  /-- Thresholds of the message queue. -/
  | queueThresholds
  /-- Number of the next cluster. -/
  | nextClusterId
  /-- A cluster by its number. -/
  | clusters
  /-- The cluster of an account. -/
  | clusterAccounts
  /-- The state of the contract of a workload. -/
  | contracts
  /-- A proof of work of a workload at a block. -/
  | proofs
  /-- Number of the next app. -/
  | nextAppId
  /-- An app by its owner and number. -/
  | apps
  /-- The owner of an app. -/
  | appOwners
  /-- The prices of apps of a service level. -/
  | appPrices
  /-- Number of the next task. -/
  | nextTaskId
  /-- A task by its owner and number. -/
  | tasks
  /-- The owner of a task. -/
  | taskOwners
  /-- The prices of tasks of a service level. -/
  | taskPrices
  /-- Number of the next GPU job. -/
  | nextGpuId
  /-- A GPU job by its owner and number. -/
  | gpuJobs
  /-- The owner of a GPU job. -/
  | gpuOwners
  /-- The prices of GPU jobs of a service level. -/
  | gpuPrices
  /-- Number of the next secret-sharing node. -/
  | nextNodeId
  /-- The key of a secret-sharing node. -/
  | nodes
  /-- Measurement of the code that nodes must run. -/
  | enclaveMeasurement
  /-- Measurement of the signer of that code. -/
  | signerMeasurement
  /-- Number of the next bridge call. -/
  | nextBridgeCallId
  /-- A queued bridge call by its number. -/
  | bridgeCalls
deriving DecidableEq, Repr

namespace StorageItem

/-- Layout of an item. -/
def layout : StorageItem → ItemLayout
  | blockNumber => ⟨.system, "Number", .none, .u32⟩
  | blockHash => ⟨.system, "BlockHash", .one .u32, Hash.schema⟩
  | extrinsicCount => ⟨.system, "ExtrinsicCount", .none, .u32⟩
  | now => ⟨.timestamp, "Now", .none, .u64⟩
  | parachainId => ⟨.parachainInfo, "ParachainId", .none, .u32⟩
  | totalIssuance => ⟨.balances, "TotalIssuance", .none, .u128⟩
  | authorities => ⟨.aura, "Authorities", .none, .list (.array 32)⟩
  | currentSlot => ⟨.aura, "CurrentSlot", .none, .u64⟩
  | queueSuspended => ⟨.xcmpQueue, "QueueSuspended", .none, .bool⟩
  | queueThresholds => ⟨.xcmpQueue, "QueueConfig", .none, QueueThresholds.schema⟩
  | nextClusterId => ⟨.worker, "NextClusterId", .none, .u64⟩
  | clusters => ⟨.worker, "K8sClusters", .one .u64, Cluster.schema⟩
  | clusterAccounts => ⟨.worker, "K8sClusterAccounts", .one AccountId.schema, .u64⟩
  | contracts => ⟨.worker, "WorkContracts", .one WorkloadId.schema, Settlement.schema⟩
  | proofs => ⟨.worker, "ProofsOfWork", .two WorkloadId.schema .u32, WorkProof.schema⟩
  | nextAppId => ⟨.app, "NextTeeId", .none, .u64⟩
  | apps => ⟨.app, "TEEApps", .two AccountId.schema .u64, Workload.schema⟩
  | appOwners => ⟨.app, "AppIdAccounts", .one .u64, AccountId.schema⟩
  | appPrices => ⟨.app, "Prices", .one .u8, UnitPrices.schema⟩
  | nextTaskId => ⟨.task, "NextTeeId", .none, .u64⟩
  | tasks => ⟨.task, "TEETasks", .two AccountId.schema .u64, Workload.schema⟩
  | taskOwners => ⟨.task, "TaskIdAccounts", .one .u64, AccountId.schema⟩
  | taskPrices => ⟨.task, "Prices", .one .u8, UnitPrices.schema⟩
  | nextGpuId => ⟨.gpu, "NextAppId", .none, .u64⟩
  | gpuJobs => ⟨.gpu, "GPUApps", .two AccountId.schema .u64, Workload.schema⟩
  | gpuOwners => ⟨.gpu, "AppIdAccounts", .one .u64, AccountId.schema⟩
  | gpuPrices => ⟨.gpu, "Prices", .one .u8, UnitPrices.schema⟩
  | nextNodeId => ⟨.dsecret, "NextNodeId", .none, .u64⟩
  | nodes => ⟨.dsecret, "Nodes", .one .u64, .array 32⟩
  | enclaveMeasurement => ⟨.dsecret, "CodeMrenclave", .none, .bytes⟩
  | signerMeasurement => ⟨.dsecret, "CodeMrsigner", .none, .bytes⟩
  | nextBridgeCallId => ⟨.bridge, "NextTeeCallId", .none, .u128⟩
  | bridgeCalls => ⟨.bridge, "TEECalls", .one .u128, EnclaveCall.schema⟩

/-- All items, pallet by pallet. -/
def all : List StorageItem :=
  [blockNumber, blockHash, extrinsicCount, now, parachainId, totalIssuance, authorities,
    currentSlot, queueSuspended, queueThresholds, nextClusterId, clusters, clusterAccounts,
    contracts, proofs, nextAppId, apps, appOwners, appPrices, nextTaskId, tasks, taskOwners,
    taskPrices, nextGpuId, gpuJobs, gpuOwners, gpuPrices, nextNodeId, nodes, enclaveMeasurement,
    signerMeasurement, nextBridgeCallId, bridgeCalls]

/-- Every item is in the list of all. -/
theorem mem_all (item : StorageItem) : item ∈ all := by cases item <;> decide

end StorageItem

/-- An entry of an item. -/
structure Slot where
  /-- The item. -/
  item : StorageItem
  /-- The arguments. -/
  key : item.layout.Key

namespace Slot

/-- The type of what a slot stores. -/
abbrev Value (slot : Slot) : Type := slot.item.layout.Value

/-- The address of a slot. -/
def address (slot : Slot) : Address slot.Value :=
  let layout := slot.item.layout
  ⟨layout.pallet.name, layout.name, layout.keys.encode slot.key, layout.value⟩

end Slot

end EnclaveChain
