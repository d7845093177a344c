/-!
# Pallets

The modules of the runtime that this library knows, with the names that the chain gives them. A
name is both a label of the registry and the text that storage keys are hashed from.
-/
namespace EnclaveChain

/-- A module of the runtime. -/
inductive Pallet where
  /-- Blocks and remarks. -/
  | system
  /-- The clock. -/
  | timestamp
  /-- The number of the chain among its siblings. -/
  | parachainInfo
  /-- The native token. -/
  | balances
  /-- Block authorities. -/
  | aura
  /-- Messages between chains. -/
  | xcmpQueue
  /-- Worker clusters. -/
  | worker
  /-- Long-running workloads. -/
  | app
  /-- Workloads that run to completion. -/
  | task
  /-- Workloads on graphics processors. -/
  | gpu
  /-- Nodes that share secrets. -/
  | dsecret
  /-- Calls from contracts into workloads. -/
  | bridge
deriving DecidableEq, Repr

/-- The name of a pallet on the chain. -/
def Pallet.name : Pallet → String
  | system => "System"
  | timestamp => "Timestamp"
  | parachainInfo => "ParachainInfo"
  | balances => "Balances"
  | aura => "Aura"
  | xcmpQueue => "XcmpQueue"
  | worker => "WeteeWorker"
  | app => "WeteeApp"
  | task => "WeteeTask"
  | gpu => "WeteeGpu"
  | dsecret => "WeteeDsecret"
  | bridge => "WeteeBridge"

end EnclaveChain
