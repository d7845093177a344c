import EnclaveChain.Chain.Account

/-!
# Calls of the base pallets

Remarks, the clock, transfers and the controls of the message queue. The tag of a variant is the
index of the call in its pallet.
-/
namespace EnclaveChain

open Scale

/-- Calls of the system pallet. -/
inductive SystemCall where
  /-- Leave a remark on the chain. -/
  | remark (remark : Bytes)
  /-- Leave a remark and announce it. -/
  | remarkWithEvent (remark : Bytes)
deriving DecidableEq

/-- Calls of the clock. -/
inductive TimestampCall where
  /-- Set the time, in milliseconds. -/
  | set (now : UInt64)
deriving DecidableEq

/-- Calls of the token pallet. -/
inductive BalancesCall where
  /-- Transfer, even if the sender's account ends. -/
  | transferAllowDeath (dest : MultiAddress) (value : Balance)
  /-- Transfer, unless the sender's account would end. -/
  | transferKeepAlive (dest : MultiAddress) (value : Balance)
deriving DecidableEq

/-- Calls of the message queue. -/
inductive QueueCall where
  /-- Stop executing messages. -/
  | suspendExecution
  /-- Execute messages again. -/
  | resumeExecution
  /-- Set the page count at which channels are suspended. -/
  | updateSuspendThreshold (pages : UInt32)
  /-- Set the page count at which messages are dropped. -/
  | updateDropThreshold (pages : UInt32)
  /-- Set the page count at which channels resume. -/
  | updateResumeThreshold (pages : UInt32)
deriving DecidableEq

/-- System calls as a choice. -/
def SystemCall.variants : Iso (Bytes ⊕ Bytes ⊕ Empty) SystemCall where
  make
    | .at0 bytes => .remark bytes
    | .at1 bytes => .remarkWithEvent bytes
  parts
    | .remark bytes => .at0 bytes
    | .remarkWithEvent bytes => .at1 bytes
  make_parts := by intro call; cases call <;> rfl
  parts_make
    | .at0 _ | .at1 _ => rfl

/-- Layout of a system call. -/
def SystemCall.schema : Schema SystemCall :=
  .via variants <| .choice "Call" <|
    .record 0 "Remark" (.last "remark" .bytes) <|
    .record 7 "RemarkWithEvent" (.last "remark" .bytes) .none

/-- Clock calls as a choice. -/
def TimestampCall.variants : Iso (UInt64 ⊕ Empty) TimestampCall where
  make
    | .at0 now => .set now
  parts
    | .set now => .at0 now
  make_parts := by intro call; cases call; rfl
  parts_make
    | .at0 _ => rfl

/-- Layout of a clock call. -/
def TimestampCall.schema : Schema TimestampCall :=
  .via variants <| .choice "Call" <|
    .record 0 "Set" (.last "now" .compact64) .none

/-- Token calls as a choice. -/
def BalancesCall.variants :
    Iso ((MultiAddress × Balance) ⊕ (MultiAddress × Balance) ⊕ Empty) BalancesCall where
  make
    | .at0 (dest, value) => .transferAllowDeath dest value
    | .at1 (dest, value) => .transferKeepAlive dest value
  parts
    | .transferAllowDeath dest value => .at0 (dest, value)
    | .transferKeepAlive dest value => .at1 (dest, value)
  make_parts := by intro call; cases call <;> rfl
  parts_make
    | .at0 _ | .at1 _ => rfl

/-- Layout of a token call. -/
def BalancesCall.schema : Schema BalancesCall :=
  .via variants <| .choice "Call" <|
    .record 0 "TransferAllowDeath" (
      .field "dest" MultiAddress.schema <|
      .last "value" .compact128) <|
    .record 3 "TransferKeepAlive" (
      .field "dest" MultiAddress.schema <|
      .last "value" .compact128) .none

/-- Queue calls as a choice. -/
def QueueCall.variants : Iso (Unit ⊕ Unit ⊕ UInt32 ⊕ UInt32 ⊕ UInt32 ⊕ Empty) QueueCall where
  make
    | .at0 () => .suspendExecution
    | .at1 () => .resumeExecution
    | .at2 pages => .updateSuspendThreshold pages
    | .at3 pages => .updateDropThreshold pages
    | .at4 pages => .updateResumeThreshold pages
  parts
    | .suspendExecution => .at0 ()
    | .resumeExecution => .at1 ()
    | .updateSuspendThreshold pages => .at2 pages
    | .updateDropThreshold pages => .at3 pages
    | .updateResumeThreshold pages => .at4 pages
  make_parts := by intro call; cases call <;> rfl
  parts_make
    | .at0 () | .at1 () | .at2 _ | .at3 _ | .at4 _ => rfl

/-- Layout of a queue call. -/
def QueueCall.schema : Schema QueueCall :=
  .via variants <| .choice "Call" <|
    .plain 1 "SuspendXcmExecution" <|
    .plain 2 "ResumeXcmExecution" <|
    .record 3 "UpdateSuspendThreshold" (.last "new" .u32) <|
    .record 4 "UpdateDropThreshold" (.last "new" .u32) <|
    .record 5 "UpdateResumeThreshold" (.last "new" .u32) .none

end EnclaveChain
