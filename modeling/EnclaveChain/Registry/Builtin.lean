import EnclaveChain.Registry.Basic

/-!
# The built-in registry

The runtime that the typed calls and storage slots of this library are made for.
-/
namespace EnclaveChain.Registry

/-- A call by its index, name and arguments. -/
def call (index : UInt8) (name : String) (args : List (String × String)) : CallEntry :=
  ⟨name, index, args.map fun (name, type) => ⟨name, type⟩⟩

/-- An item by its modifier, keys, type and default. -/
def item (name : String) (modifier : Modifier) (keys : List (Hasher × String)) (type : String)
    (default : Bytes) : StorageEntry :=
  ⟨name, modifier, keys.map (·.1), keys.map (·.2), type, default⟩

/-- An item without keys that has a default. -/
def plain (name type : String) (default : Bytes) : StorageEntry :=
  item name .default [] type default

/-- An item that may be absent. -/
def optional (name : String) (keys : List (Hasher × String)) (type : String) : StorageEntry :=
  item name .optional keys type []

/-- So many zero bytes. -/
def zeros (count : Nat) : Bytes := List.replicate count 0

/-- The arguments of the call that creates a workload. -/
def createArguments : List (String × String) :=
  [("name", "Vec<u8>"), ("image", "Vec<u8>"), ("meta", "Vec<u8>"), ("port", "Vec<Service>"),
    ("command", "Command"), ("env", "Vec<EnvInput>"), ("cpu", "u32"), ("memory", "u32"),
    ("disk", "Vec<Disk>"), ("gpu", "u32"), ("level", "u8"), ("tee_version", "TeeVersion"),
    ("deposit", "u128")]

/-- The arguments of the call that changes a workload, which is named first. -/
def updateArguments (id : String) : List (String × String) :=
  [(id, "u64"), ("new_name", "Option<Vec<u8>>"), ("new_image", "Option<Vec<u8>>"),
    ("new_port", "Option<Vec<Service>>"), ("new_command", "Option<Command>"),
    ("new_env", "Vec<EnvInput>"), ("new_cpu", "Option<u32>"), ("new_memory", "Option<u32>"),
    ("new_gpu", "Option<u32>")]

/-- The calls that set prices and add to a deposit. -/
def priceCalls (updatePrice charge : UInt8) : List CallEntry :=
  [call updatePrice "update_price" [("level", "u8"), ("price", "Price")],
    call charge "charge" [("id", "u64"), ("deposit", "u128")]]

/-- The calls of apps and of GPU jobs. -/
def serviceCalls : List CallEntry :=
  [call 0 "create" createArguments, call 1 "update" (updateArguments "app_id"),
    call 2 "restart" [("app_id", "u64")], call 3 "stop" [("app_id", "u64")]] ++ priceCalls 4 5

/-- A map from owners and numbers to workloads. -/
def workloads (name : String) : StorageEntry :=
  optional name [(.blake128Concat, "AccountId32"), (.twox64Concat, "u64")] "TeeApp"

/-- A map from numbers to owners. -/
def owners (name : String) : StorageEntry := optional name [(.twox64Concat, "u64")] "AccountId32"

/-- A map from service levels to prices. -/
def prices : StorageEntry := optional "Prices" [(.twox64Concat, "u8")] "Price"

/-- The registry of the runtime. -/
def builtin : Registry where
  specVersion := 129
  pallets :=
    [⟨"System", 0,
        [call 0 "remark" [("remark", "Vec<u8>")],
          call 7 "remark_with_event" [("remark", "Vec<u8>")]],
        [plain "Number" "u32" (zeros 4),
          item "BlockHash" .default [(.twox64Concat, "u32")] "H256" (zeros 32),
          optional "ExtrinsicCount" [] "u32"]⟩,
      ⟨"Timestamp", 2,
        [call 0 "set" [("now", "Compact<u64>")]],
        [plain "Now" "u64" (zeros 8)]⟩,
      ⟨"ParachainInfo", 3, [], [plain "ParachainId" "u32" [0x64, 0, 0, 0]]⟩,
      ⟨"Balances", 10,
        [call 0 "transfer_allow_death" [("dest", "MultiAddress"), ("value", "Compact<u128>")],
          call 3 "transfer_keep_alive" [("dest", "MultiAddress"), ("value", "Compact<u128>")]],
        [plain "TotalIssuance" "u128" (zeros 16)]⟩,
      ⟨"Aura", 23, [],
        [plain "Authorities" "Vec<[u8; 32]>" [0], plain "CurrentSlot" "u64" (zeros 8)]⟩,
      ⟨"XcmpQueue", 30,
        [call 1 "suspend_xcm_execution" [], call 2 "resume_xcm_execution" [],
          call 3 "update_suspend_threshold" [("new", "u32")],
          call 4 "update_drop_threshold" [("new", "u32")],
          call 5 "update_resume_threshold" [("new", "u32")]],
        [plain "QueueSuspended" "bool" [0],
          plain "QueueConfig" "QueueConfigData" [32, 0, 0, 0, 48, 0, 0, 0, 8, 0, 0, 0]]⟩,
      ⟨"WeteeWorker", 50,
        [call 0 "cluster_register"
            [("name", "Vec<u8>"), ("ip", "Vec<Ip>"), ("port", "u32"), ("level", "u8")],
          call 1 "cluster_mortgage"
            [("id", "u64"), ("cpu", "u32"), ("mem", "u32"), ("cvm_cpu", "u32"),
              ("cvm_mem", "u32"), ("disk", "u32"), ("gpu", "u32"), ("deposit", "u128")],
          call 2 "cluster_unmortgage" [("id", "u64"), ("block_num", "u32")],
          call 3 "cluster_withdrawal" [("id", "WorkId"), ("val", "u128")],
          call 4 "cluster_stop" [("id", "u64")],
          call 5 "cluster_report"
            [("cluster_id", "u64"), ("work_id", "WorkId"), ("reason", "Vec<u8>")],
          call 6 "report_close" [("cluster_id", "u64"), ("work_id", "WorkId")],
          call 7 "work_proof_upload"
            [("work_id", "WorkId"), ("proof", "Option<ProofOfWork>"),
              ("report", "Option<Vec<u8>>")]],
        [plain "NextClusterId" "u64" (zeros 8),
          optional "K8sClusters" [(.twox64Concat, "u64")] "K8sCluster",
          optional "K8sClusterAccounts" [(.blake128Concat, "AccountId32")] "u64",
          optional "WorkContracts" [(.twox64Concat, "WorkId")] "ContractState",
          optional "ProofsOfWork" [(.twox64Concat, "WorkId"), (.twox64Concat, "u32")]
            "ProofOfWork"]⟩,
      ⟨"WeteeApp", 51, serviceCalls,
        [plain "NextTeeId" "u64" (zeros 8), workloads "TEEApps", owners "AppIdAccounts", prices]⟩,
      ⟨"WeteeTask", 52,
        [call 0 "create" createArguments, call 1 "update" (updateArguments "task_id"),
          call 2 "rerun" [("id", "u64")]] ++ priceCalls 3 4,
        [plain "NextTeeId" "u64" (zeros 8), workloads "TEETasks", owners "TaskIdAccounts",
          prices]⟩,
      ⟨"WeteeGpu", 53, serviceCalls,
        [plain "NextAppId" "u64" (zeros 8), workloads "GPUApps", owners "AppIdAccounts", prices]⟩,
      ⟨"WeteeDsecret", 54,
        [call 0 "register_node" [("pubkey", "[u8; 32]")],
          call 1 "upload_code_mrenclave" [("mrenclave", "Vec<u8>"), ("mrsigner", "Vec<u8>")]],
        [plain "NextNodeId" "u64" (zeros 8), optional "Nodes" [(.twox64Concat, "u64")] "[u8; 32]",
          plain "CodeMrenclave" "Vec<u8>" [0], plain "CodeMrsigner" "Vec<u8>" [0]]⟩,
      ⟨"WeteeBridge", 55,
        [call 0 "call_tee"
            [("work_id", "WorkId"), ("method", "u16"), ("params", "Vec<u8>"),
              ("callback", "Option<Vec<u8>>")],
          call 1 "respond" [("call_id", "u128"), ("result", "Vec<u8>")]],
        [plain "NextTeeCallId" "u128" (zeros 16),
          optional "TEECalls" [(.twox64Concat, "u128")] "TeeCall"]⟩]

end EnclaveChain.Registry
