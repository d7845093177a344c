import EnclaveChain.Chain.Workload

/-!
# Clusters, prices and bridge calls

Worker clusters offer resources at prices, prove the work they did and settle for it; contracts
reach a workload through calls that wait on the chain; and a queue carries messages between
chains. Each record comes with its layout.
-/
namespace EnclaveChain

open Scale

/-- Where a cluster is reached. -/
structure HostAddress where
  /-- Address of 32 bits. -/
  ipv4 : Option UInt32 := none
  /-- Address of 128 bits. -/
  ipv6 : Option (BitVec 128) := none
  /-- Domain name. -/
  domain : Option Bytes := none
deriving DecidableEq

/-- Prices of one unit of each resource at a service level. -/
structure UnitPrices where
  /-- A processor core. -/
  cpu : Balance := 0
  /-- A core of a confidential machine. -/
  cvmCpu : Balance := 0
  /-- A megabyte of memory. -/
  memory : Balance := 0
  /-- A megabyte of memory of a confidential machine. -/
  cvmMemory : Balance := 0
  /-- A gigabyte of disk. -/
  disk : Balance := 0
  /-- A graphics processor. -/
  gpu : Balance := 0
deriving DecidableEq

/-- Amounts of each resource. -/
structure Resources where
  /-- Processor cores. -/
  cpu : UInt32 := 0
  /-- Memory in megabytes. -/
  mem : UInt32 := 0
  /-- Cores of confidential machines. -/
  cvmCpu : UInt32 := 0
  /-- Memory of confidential machines in megabytes. -/
  cvmMem : UInt32 := 0
  /-- Disk in gigabytes. -/
  disk : UInt32 := 0
  /-- Graphics processors. -/
  gpu : UInt32 := 0
deriving DecidableEq

/-- Proof that a workload ran. -/
structure WorkProof where
  /-- Hash of the logs. -/
  logsHash : Bytes := []
  /-- Resources used. -/
  resources : Resources := {}
  /-- Public key of the workload. -/
  publicKey : Bytes := []
deriving DecidableEq

/-- How far the contract of a workload is settled. -/
structure Settlement where
  /-- Block of the last settlement. -/
  blockNumber : BlockNumber := 0
  /-- Amount earned. -/
  minted : Balance := 0
  /-- Amount withdrawn. -/
  withdrawal : Balance := 0
  /-- Cluster that runs the workload. -/
  clusterId : UInt64 := 0
deriving DecidableEq

/-- A registered worker cluster. -/
structure Cluster where
  /-- Number. -/
  id : UInt64
  /-- Owner. -/
  account : AccountId
  /-- Block of the registration. -/
  startBlock : BlockNumber
  /-- Block it stopped at. -/
  stopBlock : Option BlockNumber
  /-- Block it was ended at. -/
  terminalBlock : Option BlockNumber
  /-- Name. -/
  name : Bytes
  /-- Public addresses. -/
  addresses : List HostAddress
  /-- Public port. -/
  port : UInt32
  /-- Service level. -/
  level : UInt8
deriving DecidableEq

/-- A contract's call that waits for a workload. -/
structure EnclaveCall where
  /-- The workload called. -/
  work : WorkloadId
  /-- The account or contract that calls. -/
  caller : AccountId
  /-- Selector of the method. -/
  method : UInt16
  /-- Encoded parameters. -/
  params : Bytes
  /-- Encoded selector of the callback. -/
  callback : Option Bytes
  /-- Block of the submission. -/
  block : BlockNumber
deriving DecidableEq

/-- Page counts at which the message queue acts. -/
structure QueueThresholds where
  /-- A channel is suspended. -/
  suspend : UInt32
  /-- Messages are dropped. -/
  drop : UInt32
  /-- A suspended channel resumes. -/
  resume : UInt32
deriving DecidableEq

/-- Layout of a host address. -/
def HostAddress.schema : Schema HostAddress :=
  .record "Ip" (fun (ipv4, ipv6, domain) => ⟨ipv4, ipv6, domain⟩)
      (fun host => (host.ipv4, host.ipv6, host.domain)) <|
    .field "ipv4" (.option .u32) <|
    .field "ipv6" (.option .u128) <|
    .last "domain" (.option .bytes)

/-- Layout of unit prices. -/
def UnitPrices.schema : Schema UnitPrices :=
  .record "Price" (fun (cpu, cvmCpu, memory, cvmMemory, disk, gpu) =>
      ⟨cpu, cvmCpu, memory, cvmMemory, disk, gpu⟩)
      (fun price => (price.cpu, price.cvmCpu, price.memory, price.cvmMemory, price.disk,
        price.gpu)) <|
    .field "cpu_per" .u128 <|
    .field "cvm_cpu_per" .u128 <|
    .field "memory_per" .u128 <|
    .field "cvm_memory_per" .u128 <|
    .field "disk_per" .u128 <|
    .last "gpu_per" .u128

/-- Layout of resources. -/
def Resources.schema : Schema Resources :=
  .record "ComCr"
      (fun (cpu, mem, cvmCpu, cvmMem, disk, gpu) => ⟨cpu, mem, cvmCpu, cvmMem, disk, gpu⟩)
      (fun used => (used.cpu, used.mem, used.cvmCpu, used.cvmMem, used.disk, used.gpu)) <|
    .field "cpu" .u32 <|
    .field "mem" .u32 <|
    .field "cvm_cpu" .u32 <|
    .field "cvm_mem" .u32 <|
    .field "disk" .u32 <|
    .last "gpu" .u32

/-- Layout of a proof of work. -/
def WorkProof.schema : Schema WorkProof :=
  .record "ProofOfWork" (fun (logsHash, resources, publicKey) => ⟨logsHash, resources, publicKey⟩)
      (fun proof => (proof.logsHash, proof.resources, proof.publicKey)) <|
    .field "logs_hash" .bytes <|
    .field "cr" Resources.schema <|
    .last "public_key" .bytes

/-- Layout of a settlement. -/
def Settlement.schema : Schema Settlement :=
  .record "ContractState" (fun (blockNumber, minted, withdrawal, clusterId) =>
      ⟨blockNumber, minted, withdrawal, clusterId⟩)
      (fun state => (state.blockNumber, state.minted, state.withdrawal, state.clusterId)) <|
    .field "block_number" .u32 <|
    .field "minted" .u128 <|
    .field "withdrawal" .u128 <|
    .last "cluster_id" .u64

/-- Layout of a cluster. -/
def Cluster.schema : Schema Cluster :=
  .record "K8sCluster"
      (fun (id, account, startBlock, stopBlock, terminalBlock, name, addresses, port, level) =>
      ⟨id, account, startBlock, stopBlock, terminalBlock, name, addresses, port, level⟩)
      (fun cluster => (cluster.id, cluster.account, cluster.startBlock, cluster.stopBlock,
        cluster.terminalBlock, cluster.name, cluster.addresses, cluster.port, cluster.level)) <|
    .field "id" .u64 <|
    .field "account" AccountId.schema <|
    .field "start_block" .u32 <|
    .field "stop_block" (.option .u32) <|
    .field "terminal_block" (.option .u32) <|
    .field "name" .bytes <|
    .field "ip" (.list HostAddress.schema) <|
    .field "port" .u32 <|
    .last "level" .u8

/-- Layout of a waiting call. -/
def EnclaveCall.schema : Schema EnclaveCall :=
  .record "TeeCall" (fun (work, caller, method, params, callback, block) =>
      ⟨work, caller, method, params, callback, block⟩)
      (fun call => (call.work, call.caller, call.method, call.params, call.callback, call.block)) <|
    .field "work_id" WorkloadId.schema <|
    .field "caller" AccountId.schema <|
    .field "method" .u16 <|
    .field "params" .bytes <|
    .field "callback" (.option .bytes) <|
    .last "block" .u32

/-- Layout of the thresholds of the queue. -/
def QueueThresholds.schema : Schema QueueThresholds :=
  .record "QueueConfigData" (fun (suspend, drop, resume) => ⟨suspend, drop, resume⟩)
      (fun queue => (queue.suspend, queue.drop, queue.resume)) <|
    .field "suspend_threshold" .u32 <|
    .field "drop_threshold" .u32 <|
    .last "resume_threshold" .u32

end EnclaveChain
