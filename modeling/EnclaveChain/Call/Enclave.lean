import EnclaveChain.Chain.Cluster

/-!
# Calls of the enclave pallets

Worker clusters, the three kinds of workload, nodes that share secrets, and the bridge from
contracts into workloads. Apps and GPU jobs take the same calls; tasks run again instead of being
stopped.
-/
namespace EnclaveChain

open Scale

/-- Calls of the cluster pallet. -/
inductive ClusterCall where
  /-- Register a cluster. -/
  | register (name : Bytes) (addresses : List HostAddress) (port : UInt32) (level : UInt8)
  /-- Pledge resources and a deposit. -/
  | mortgage (id : UInt64) (cpu mem cvmCpu cvmMem disk gpu : UInt32) (deposit : Balance)
  /-- Take back what was pledged at a block. -/
  | unmortgage (id : UInt64) (block : BlockNumber)
  /-- Withdraw what a workload earned. -/
  | withdraw (work : WorkloadId) (amount : Balance)
  /-- Stop a cluster. -/
  | stop (id : UInt64)
  /-- Report a workload that misbehaves. -/
  | report (cluster : UInt64) (work : WorkloadId) (reason : Bytes)
  /-- Close a report. -/
  | closeReport (cluster : UInt64) (work : WorkloadId)
  /-- Upload a proof of work and an attestation. -/
  | uploadProof (work : WorkloadId) (proof : Option WorkProof) (attestation : Option Bytes)
deriving DecidableEq

/-- Calls of the pallets of apps and of GPU jobs. -/
inductive ServiceCall where
  /-- Create a workload. -/
  | create (spec : WorkloadSpec)
  /-- Change a workload. -/
  | update (changes : WorkloadUpdate)
  /-- Start a workload again. -/
  | restart (id : UInt64)
  /-- Stop a workload. -/
  | stop (id : UInt64)
  /-- Set the prices of a service level. -/
  | updatePrice (level : UInt8) (price : UnitPrices)
  /-- Add to the deposit of a workload. -/
  | charge (id : UInt64) (deposit : Balance)
deriving DecidableEq

/-- Calls of the task pallet. -/
inductive TaskCall where
  /-- Create a task. -/
  | create (spec : WorkloadSpec)
  /-- Change a task. -/
  | update (changes : WorkloadUpdate)
  /-- Run a finished task again. -/
  | rerun (id : UInt64)
  /-- Set the prices of a service level. -/
  | updatePrice (level : UInt8) (price : UnitPrices)
  /-- Add to the deposit of a task. -/
  | charge (id : UInt64) (deposit : Balance)
deriving DecidableEq

/-- Calls of the pallet of nodes that share secrets. -/
inductive SecretCall where
  /-- Register a node. -/
  | registerNode (key : FixedBytes 32)
  /-- Set the measurements that nodes must run. -/
  | uploadMeasurements (enclave signer : Bytes)
deriving DecidableEq

/-- Calls of the bridge. -/
inductive BridgeCall where
  /-- Queue a call to a workload. -/
  | call (work : WorkloadId) (method : UInt16) (params : Bytes) (callback : Option Bytes)
  /-- Answer a queued call. -/
  | respond (id : BitVec 128) (result : Bytes)
deriving DecidableEq

/-- Cluster calls as a choice. -/
def ClusterCall.variants :
    Iso ((Bytes × List HostAddress × UInt32 × UInt8) ⊕
      (UInt64 × UInt32 × UInt32 × UInt32 × UInt32 × UInt32 × UInt32 × Balance) ⊕
      (UInt64 × BlockNumber) ⊕ (WorkloadId × Balance) ⊕ UInt64 ⊕
      (UInt64 × WorkloadId × Bytes) ⊕ (UInt64 × WorkloadId) ⊕
      (WorkloadId × Option WorkProof × Option Bytes) ⊕ Empty) ClusterCall where
  make
    | .at0 (name, addresses, port, level) => .register name addresses port level
    | .at1 (id, cpu, mem, cvmCpu, cvmMem, disk, gpu, deposit) =>
      .mortgage id cpu mem cvmCpu cvmMem disk gpu deposit
    | .at2 (id, block) => .unmortgage id block
    | .at3 (work, amount) => .withdraw work amount
    | .at4 id => .stop id
    | .at5 (cluster, work, reason) => .report cluster work reason
    | .at6 (cluster, work) => .closeReport cluster work
    | .at7 (work, proof, attestation) => .uploadProof work proof attestation
  parts
    | .register name addresses port level => .at0 (name, addresses, port, level)
    | .mortgage id cpu mem cvmCpu cvmMem disk gpu deposit =>
      .at1 (id, cpu, mem, cvmCpu, cvmMem, disk, gpu, deposit)
    | .unmortgage id block => .at2 (id, block)
    | .withdraw work amount => .at3 (work, amount)
    | .stop id => .at4 id
    | .report cluster work reason => .at5 (cluster, work, reason)
    | .closeReport cluster work => .at6 (cluster, work)
    | .uploadProof work proof attestation => .at7 (work, proof, attestation)
  make_parts := by intro call; cases call <;> rfl
  parts_make
    | .at0 _ | .at1 _ | .at2 _ | .at3 _ | .at4 _ | .at5 _ | .at6 _ | .at7 _ => rfl

/-- Layout of a cluster call. -/
def ClusterCall.schema : Schema ClusterCall :=
  .via variants <| .choice "Call" <|
    .record 0 "ClusterRegister" (
      .field "name" .bytes <|
      .field "ip" (.list HostAddress.schema) <|
      .field "port" .u32 <|
      .last "level" .u8) <|
    .record 1 "ClusterMortgage" (
      .field "id" .u64 <|
      .field "cpu" .u32 <|
      .field "mem" .u32 <|
      .field "cvm_cpu" .u32 <|
      .field "cvm_mem" .u32 <|
      .field "disk" .u32 <|
      .field "gpu" .u32 <|
      .last "deposit" .u128) <|
    .record 2 "ClusterUnmortgage" (
      .field "id" .u64 <|
      .last "block_num" .u32) <|
    .record 3 "ClusterWithdrawal" (
      .field "id" WorkloadId.schema <|
      .last "val" .u128) <|
    .record 4 "ClusterStop" (.last "id" .u64) <|
    .record 5 "ClusterReport" (
      .field "cluster_id" .u64 <|
      .field "work_id" WorkloadId.schema <|
      .last "reason" .bytes) <|
    .record 6 "ReportClose" (
      .field "cluster_id" .u64 <|
      .last "work_id" WorkloadId.schema) <|
    .record 7 "WorkProofUpload" (
      .field "work_id" WorkloadId.schema <|
      .field "proof" (.option WorkProof.schema) <|
      .last "report" (.option .bytes)) .none

/-- The arguments that set the prices of a level. -/
def priceFields : Fields (UInt8 × UnitPrices) :=
  .field "level" .u8 <| .last "price" UnitPrices.schema

/-- The arguments that add to a deposit. -/
def chargeFields : Fields (UInt64 × Balance) :=
  .field "id" .u64 <| .last "deposit" .u128

/-- Service calls as a choice. -/
def ServiceCall.variants :
    Iso (WorkloadSpec ⊕ WorkloadUpdate ⊕ UInt64 ⊕ UInt64 ⊕ (UInt8 × UnitPrices) ⊕
      (UInt64 × Balance) ⊕ Empty) ServiceCall where
  make
    | .at0 spec => .create spec
    | .at1 changes => .update changes
    | .at2 id => .restart id
    | .at3 id => .stop id
    | .at4 (level, price) => .updatePrice level price
    | .at5 (id, deposit) => .charge id deposit
  parts
    | .create spec => .at0 spec
    | .update changes => .at1 changes
    | .restart id => .at2 id
    | .stop id => .at3 id
    | .updatePrice level price => .at4 (level, price)
    | .charge id deposit => .at5 (id, deposit)
  make_parts := by intro call; cases call <;> rfl
  parts_make
    | .at0 _ | .at1 _ | .at2 _ | .at3 _ | .at4 _ | .at5 _ => rfl

/-- Layout of a service call. -/
def ServiceCall.schema : Schema ServiceCall :=
  .via variants <| .choice "Call" <|
    .payload 0 "Create" WorkloadSpec.schema <|
    .payload 1 "Update" WorkloadUpdate.schema <|
    .record 2 "Restart" (.last "app_id" .u64) <|
    .record 3 "Stop" (.last "app_id" .u64) <|
    .record 4 "UpdatePrice" priceFields <|
    .record 5 "Charge" chargeFields .none

/-- Task calls as a choice. -/
def TaskCall.variants :
    Iso (WorkloadSpec ⊕ WorkloadUpdate ⊕ UInt64 ⊕ (UInt8 × UnitPrices) ⊕ (UInt64 × Balance) ⊕
      Empty) TaskCall where
  make
    | .at0 spec => .create spec
    | .at1 changes => .update changes
    | .at2 id => .rerun id
    | .at3 (level, price) => .updatePrice level price
    | .at4 (id, deposit) => .charge id deposit
  parts
    | .create spec => .at0 spec
    | .update changes => .at1 changes
    | .rerun id => .at2 id
    | .updatePrice level price => .at3 (level, price)
    | .charge id deposit => .at4 (id, deposit)
  make_parts := by intro call; cases call <;> rfl
  parts_make
    | .at0 _ | .at1 _ | .at2 _ | .at3 _ | .at4 _ => rfl

/-- Layout of a task call. -/
def TaskCall.schema : Schema TaskCall :=
  .via variants <| .choice "Call" <|
    .payload 0 "Create" WorkloadSpec.schema <|
    .payload 1 "Update" WorkloadUpdate.schema <|
    .record 2 "Rerun" (.last "id" .u64) <|
    .record 3 "UpdatePrice" priceFields <|
    .record 4 "Charge" chargeFields .none

/-- Calls about secret-sharing nodes as a choice. -/
def SecretCall.variants : Iso (FixedBytes 32 ⊕ (Bytes × Bytes) ⊕ Empty) SecretCall where
  make
    | .at0 key => .registerNode key
    | .at1 (enclave, signer) => .uploadMeasurements enclave signer
  parts
    | .registerNode key => .at0 key
    | .uploadMeasurements enclave signer => .at1 (enclave, signer)
  make_parts := by intro call; cases call <;> rfl
  parts_make
    | .at0 _ | .at1 _ => rfl

/-- Layout of a call about secret-sharing nodes. -/
def SecretCall.schema : Schema SecretCall :=
  .via variants <| .choice "Call" <|
    .record 0 "RegisterNode" (.last "pubkey" (.array 32)) <|
    .record 1 "UploadCodeMrenclave" (
      .field "mrenclave" .bytes <|
      .last "mrsigner" .bytes) .none

/-- Bridge calls as a choice. -/
def BridgeCall.variants :
    Iso ((WorkloadId × UInt16 × Bytes × Option Bytes) ⊕ (BitVec 128 × Bytes) ⊕ Empty)
      BridgeCall where
  make
    | .at0 (work, method, params, callback) => .call work method params callback
    | .at1 (id, result) => .respond id result
  parts
    | .call work method params callback => .at0 (work, method, params, callback)
    | .respond id result => .at1 (id, result)
  make_parts := by intro call; cases call <;> rfl
  parts_make
    | .at0 _ | .at1 _ => rfl

/-- Layout of a bridge call. -/
def BridgeCall.schema : Schema BridgeCall :=
  .via variants <| .choice "Call" <|
    .record 0 "CallTee" (
      .field "work_id" WorkloadId.schema <|
      .field "method" .u16 <|
      .field "params" .bytes <|
      .last "callback" (.option .bytes)) <|
    .record 1 "Respond" (
      .field "call_id" .u128 <|
      .last "result" .bytes) .none

end EnclaveChain
