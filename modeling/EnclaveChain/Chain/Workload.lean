import EnclaveChain.Chain.Account

/-!
# Workloads

Apps, tasks and GPU jobs run in containers inside enclaves. This module holds what a creator
asks for, what an update changes and what the chain keeps of a running workload, each with its
layout.
-/
namespace EnclaveChain

open Scale

/-- The kind of a workload. -/
inductive WorkloadKind where
  /-- Runs until it is stopped. -/
  | app
  /-- Runs to completion. -/
  | task
  /-- Runs on graphics processors. -/
  | gpu
deriving DecidableEq

/-- A workload among all kinds. -/
structure WorkloadId where
  /-- Its kind. -/
  kind : WorkloadKind
  /-- Its number within the kind. -/
  id : UInt64
deriving DecidableEq

/-- A port that a workload opens. -/
inductive Port where
  /-- A TCP port. -/
  | tcp (number : UInt16)
  /-- A UDP port. -/
  | udp (number : UInt16)
  /-- An HTTP port. -/
  | http (number : UInt16)
  /-- A TCP port that only the project sees. -/
  | projectTcp (number : UInt16)
  /-- A UDP port that only the project sees. -/
  | projectUdp (number : UInt16)
deriving DecidableEq

/-- How the container is started. -/
inductive EntryCommand where
  /-- By `sh` with a script. -/
  | sh (script : Bytes)
  /-- By `bash` with a script. -/
  | bash (script : Bytes)
  /-- By `zsh` with a script. -/
  | zsh (script : Bytes)
  /-- As its image says. -/
  | image
deriving DecidableEq

/-- What an entry of the environment is. -/
inductive EnvKind where
  /-- A variable. -/
  | variable
  /-- A mounted file. -/
  | file
deriving DecidableEq

/-- An entry of the environment of a workload. -/
structure EnvEntry where
  /-- Variable or file. -/
  kind : EnvKind
  /-- The name of the variable or the path of the file. -/
  key : Bytes
  /-- The value of the variable or the content of the file. -/
  value : Bytes
  /-- The position of the entry. -/
  index : UInt16
deriving DecidableEq

/-- A storage class, with the path that the disk is mounted at. -/
inductive DiskClass where
  /-- A solid state disk. -/
  | ssd (path : Bytes)
deriving DecidableEq

/-- A disk of a workload. -/
structure Disk where
  /-- Storage class and mount path. -/
  path : DiskClass
  /-- Size in gigabytes. -/
  size : UInt32
deriving DecidableEq

/-- The kind of enclave that a workload runs in. -/
inductive EnclaveKind where
  /-- An enclave inside a process. -/
  | sgx
  /-- A confidential virtual machine. -/
  | cvm
deriving DecidableEq

/-- What the chain keeps of a workload. -/
structure Workload where
  /-- Number within its kind. -/
  id : UInt64
  /-- The account that created it. -/
  creator : AccountId
  /-- Name. -/
  name : Bytes
  /-- Container image. -/
  image : Bytes
  /-- Free-form data. -/
  extra : Bytes
  /-- Open ports. -/
  port : List Port
  /-- Start of the container. -/
  command : EntryCommand
  /-- Environment. -/
  env : List EnvEntry
  /-- Processor cores. -/
  cpu : UInt32
  /-- Memory in megabytes. -/
  memory : UInt32
  /-- Disks. -/
  disk : List Disk
  /-- Graphics processors. -/
  gpu : UInt32
  /-- Stage of its life. -/
  status : UInt8
  /-- Service level. -/
  level : UInt8
  /-- Kind of enclave. -/
  enclave : EnclaveKind
  /-- Block of its creation. -/
  startBlock : BlockNumber
deriving DecidableEq

/-- What a creator asks for. -/
structure WorkloadSpec where
  /-- Name. -/
  name : Bytes
  /-- Container image. -/
  image : Bytes
  /-- Free-form data. -/
  extra : Bytes
  /-- Open ports. -/
  port : List Port
  /-- Start of the container. -/
  command : EntryCommand
  /-- Environment. -/
  env : List EnvEntry
  /-- Processor cores. -/
  cpu : UInt32
  /-- Memory in megabytes. -/
  memory : UInt32
  /-- Disks. -/
  disk : List Disk
  /-- Graphics processors. -/
  gpu : UInt32
  /-- Service level. -/
  level : UInt8
  /-- Kind of enclave. -/
  enclave : EnclaveKind
  /-- Deposit. -/
  deposit : Balance
deriving DecidableEq

/-- Changes to a workload; what is absent stays as it is. -/
structure WorkloadUpdate where
  /-- The workload, by its number within its kind. -/
  id : UInt64
  /-- New name. -/
  newName : Option Bytes := none
  /-- New image. -/
  newImage : Option Bytes := none
  /-- New ports. -/
  newPort : Option (List Port) := none
  /-- New start of the container. -/
  newCommand : Option EntryCommand := none
  /-- Entries of the environment to replace, each at its index. -/
  newEnv : List EnvEntry := []
  /-- New number of processor cores. -/
  newCpu : Option UInt32 := none
  /-- New memory in megabytes. -/
  newMemory : Option UInt32 := none
  /-- New number of graphics processors. -/
  newGpu : Option UInt32 := none
deriving DecidableEq

/-- Kinds of workload as a choice. -/
def WorkloadKind.variants : Iso (Unit ⊕ Unit ⊕ Unit ⊕ Empty) WorkloadKind where
  make
    | .at0 () => .app
    | .at1 () => .task
    | .at2 () => .gpu
  parts
    | .app => .at0 ()
    | .task => .at1 ()
    | .gpu => .at2 ()
  make_parts := by intro value; cases value <;> rfl
  parts_make
    | .at0 () | .at1 () | .at2 () => rfl

/-- Layout of a kind. -/
def WorkloadKind.schema : Schema WorkloadKind :=
  .via variants <| .choice "WorkType" <|
    .plain 0 "App" <|
    .plain 1 "Task" <|
    .plain 2 "Gpu" .none

/-- Layout of a workload's identity. -/
def WorkloadId.schema : Schema WorkloadId :=
  .record "WorkId" (fun (kind, id) => ⟨kind, id⟩) (fun work => (work.kind, work.id)) <|
    .field "wtype" WorkloadKind.schema <|
    .last "id" .u64

/-- Ports as a choice. -/
def Port.variants : Iso (UInt16 ⊕ UInt16 ⊕ UInt16 ⊕ UInt16 ⊕ UInt16 ⊕ Empty) Port where
  make
    | .at0 number => .tcp number
    | .at1 number => .udp number
    | .at2 number => .http number
    | .at3 number => .projectTcp number
    | .at4 number => .projectUdp number
  parts
    | .tcp number => .at0 number
    | .udp number => .at1 number
    | .http number => .at2 number
    | .projectTcp number => .at3 number
    | .projectUdp number => .at4 number
  make_parts := by intro value; cases value <;> rfl
  parts_make
    | .at0 _ | .at1 _ | .at2 _ | .at3 _ | .at4 _ => rfl

/-- Layout of a port. -/
def Port.schema : Schema Port :=
  .via variants <| .choice "Service" <|
    .payload 0 "Tcp" .u16 <|
    .payload 1 "Udp" .u16 <|
    .payload 2 "Http" .u16 <|
    .payload 3 "ProjectTcp" .u16 <|
    .payload 4 "ProjectUdp" .u16 .none

/-- Entry commands as a choice. -/
def EntryCommand.variants : Iso (Bytes ⊕ Bytes ⊕ Bytes ⊕ Unit ⊕ Empty) EntryCommand where
  make
    | .at0 script => .sh script
    | .at1 script => .bash script
    | .at2 script => .zsh script
    | .at3 () => .image
  parts
    | .sh script => .at0 script
    | .bash script => .at1 script
    | .zsh script => .at2 script
    | .image => .at3 ()
  make_parts := by intro value; cases value <;> rfl
  parts_make
    | .at0 _ | .at1 _ | .at2 _ | .at3 () => rfl

/-- Layout of an entry command. -/
def EntryCommand.schema : Schema EntryCommand :=
  .via variants <| .choice "Command" <|
    .payload 0 "Sh" .bytes <|
    .payload 1 "Bash" .bytes <|
    .payload 2 "Zsh" .bytes <|
    .plain 3 "None" .none

/-- Kinds of environment entry as a choice. -/
def EnvKind.variants : Iso (Unit ⊕ Unit ⊕ Empty) EnvKind where
  make
    | .at0 () => .variable
    | .at1 () => .file
  parts
    | .variable => .at0 ()
    | .file => .at1 ()
  make_parts := by intro value; cases value <;> rfl
  parts_make
    | .at0 () | .at1 () => rfl

/-- Layout of a kind of environment entry. -/
def EnvKind.schema : Schema EnvKind :=
  .via variants <| .choice "EnvType" <|
    .plain 0 "Env" <|
    .plain 1 "File" .none

/-- Layout of an environment entry. -/
def EnvEntry.schema : Schema EnvEntry :=
  .record "EnvInput" (fun (kind, key, value, index) => ⟨kind, key, value, index⟩)
      (fun entry => (entry.kind, entry.key, entry.value, entry.index)) <|
    .field "etype" EnvKind.schema <|
    .field "k" .bytes <|
    .field "v" .bytes <|
    .last "index" .u16

/-- Disk classes as a choice. -/
def DiskClass.variants : Iso (Bytes ⊕ Empty) DiskClass where
  make
    | .at0 path => .ssd path
  parts
    | .ssd path => .at0 path
  make_parts := by intro value; cases value; rfl
  parts_make
    | .at0 _ => rfl

/-- Layout of a disk class. -/
def DiskClass.schema : Schema DiskClass :=
  .via variants <| .choice "DiskClass" <|
    .payload 0 "Ssd" .bytes .none

/-- Layout of a disk. -/
def Disk.schema : Schema Disk :=
  .record "Disk" (fun (path, size) => ⟨path, size⟩) (fun disk => (disk.path, disk.size)) <|
    .field "path" DiskClass.schema <|
    .last "size" .u32

/-- Kinds of enclave as a choice. -/
def EnclaveKind.variants : Iso (Unit ⊕ Unit ⊕ Empty) EnclaveKind where
  make
    | .at0 () => .sgx
    | .at1 () => .cvm
  parts
    | .sgx => .at0 ()
    | .cvm => .at1 ()
  make_parts := by intro value; cases value <;> rfl
  parts_make
    | .at0 () | .at1 () => rfl

/-- Layout of a kind of enclave. -/
def EnclaveKind.schema : Schema EnclaveKind :=
  .via variants <| .choice "TeeVersion" <|
    .plain 0 "Sgx" <|
    .plain 1 "Cvm" .none

/-- Layout of a stored workload. -/
def Workload.schema : Schema Workload :=
  .record "TeeApp"
      (fun (id, creator, name, image, extra, port, command, env, cpu, memory, disk, gpu, status,
        level, enclave, startBlock) =>
      ⟨id, creator, name, image, extra, port, command, env, cpu, memory, disk, gpu, status, level,
        enclave, startBlock⟩)
      (fun app => (app.id, app.creator, app.name, app.image, app.extra, app.port, app.command,
        app.env, app.cpu, app.memory, app.disk, app.gpu, app.status, app.level, app.enclave,
        app.startBlock)) <|
    .field "id" .u64 <|
    .field "creator" AccountId.schema <|
    .field "name" .bytes <|
    .field "image" .bytes <|
    .field "meta" .bytes <|
    .field "port" (.list Port.schema) <|
    .field "command" EntryCommand.schema <|
    .field "env" (.list EnvEntry.schema) <|
    .field "cpu" .u32 <|
    .field "memory" .u32 <|
    .field "disk" (.list Disk.schema) <|
    .field "gpu" .u32 <|
    .field "status" .u8 <|
    .field "level" .u8 <|
    .field "tee_version" EnclaveKind.schema <|
    .last "start_block" .u32

/-- Layout of a request for a workload. -/
def WorkloadSpec.schema : Schema WorkloadSpec :=
  .record "WorkloadSpec"
      (fun (name, image, extra, port, command, env, cpu, memory, disk, gpu, level, enclave,
        deposit) =>
      ⟨name, image, extra, port, command, env, cpu, memory, disk, gpu, level, enclave, deposit⟩)
      (fun spec => (spec.name, spec.image, spec.extra, spec.port, spec.command, spec.env, spec.cpu,
        spec.memory, spec.disk, spec.gpu, spec.level, spec.enclave, spec.deposit)) <|
    .field "name" .bytes <|
    .field "image" .bytes <|
    .field "meta" .bytes <|
    .field "port" (.list Port.schema) <|
    .field "command" EntryCommand.schema <|
    .field "env" (.list EnvEntry.schema) <|
    .field "cpu" .u32 <|
    .field "memory" .u32 <|
    .field "disk" (.list Disk.schema) <|
    .field "gpu" .u32 <|
    .field "level" .u8 <|
    .field "tee_version" EnclaveKind.schema <|
    .last "deposit" .u128

/-- Layout of an update. -/
def WorkloadUpdate.schema : Schema WorkloadUpdate :=
  .record "WorkloadUpdate"
      (fun (id, newName, newImage, newPort, newCommand, newEnv, newCpu, newMemory, newGpu) =>
      ⟨id, newName, newImage, newPort, newCommand, newEnv, newCpu, newMemory, newGpu⟩)
      (fun update => (update.id, update.newName, update.newImage, update.newPort,
        update.newCommand, update.newEnv, update.newCpu, update.newMemory, update.newGpu)) <|
    .field "id" .u64 <|
    .field "new_name" (.option .bytes) <|
    .field "new_image" (.option .bytes) <|
    .field "new_port" (.option (.list Port.schema)) <|
    .field "new_command" (.option EntryCommand.schema) <|
    .field "new_env" (.list EnvEntry.schema) <|
    .field "new_cpu" (.option .u32) <|
    .field "new_memory" (.option .u32) <|
    .last "new_gpu" (.option .u32)

end EnclaveChain
