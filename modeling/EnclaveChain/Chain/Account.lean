import EnclaveChain.Scale.Choice
import EnclaveChain.Scale.Schema

/-!
# Accounts, hashes and amounts

The values that every chain of this family shares: account keys, block hashes, the ways to name
a receiver, and the widths of balances and block numbers.
-/
namespace EnclaveChain

open Scale

/-- A hash of 32 bytes. -/
abbrev Hash := FixedBytes 32

/-- The number of a block. -/
abbrev BlockNumber := UInt32

/-- An amount of the native token. -/
abbrev Balance := BitVec 128

/-- An account, named by its public key. -/
structure AccountId where
  /-- The public key. -/
  key : FixedBytes 32
deriving DecidableEq

/-- The receiver of a transfer. -/
inductive MultiAddress where
  /-- An account. -/
  | id (account : AccountId)
  /-- A position in a table of accounts that this chain does not have. -/
  | index
  /-- Bytes of any length. -/
  | raw (bytes : Bytes)
  /-- An address of 32 bytes. -/
  | address32 (bytes : FixedBytes 32)
  /-- An address of 20 bytes. -/
  | address20 (bytes : FixedBytes 20)
deriving DecidableEq

/-- Layout of a hash: its bytes. -/
def Hash.schema : Schema Hash := .alias "H256" (.array 32)

/-- Layout of an account: its key. -/
def AccountId.schema : Schema AccountId :=
  .via ⟨AccountId.mk, AccountId.key, fun _ => rfl, fun _ => rfl⟩ <|
    .struct "AccountId32" (.payload (.array 32))

/-- Receivers as a choice. -/
def MultiAddress.variants :
    Iso (AccountId ⊕ Unit ⊕ Bytes ⊕ FixedBytes 32 ⊕ FixedBytes 20 ⊕ Empty) MultiAddress where
  make
    | .at0 account => .id account
    | .at1 () => .index
    | .at2 bytes => .raw bytes
    | .at3 bytes => .address32 bytes
    | .at4 bytes => .address20 bytes
  parts
    | .id account => .at0 account
    | .index => .at1 ()
    | .raw bytes => .at2 bytes
    | .address32 bytes => .at3 bytes
    | .address20 bytes => .at4 bytes
  make_parts := by intro value; cases value <;> rfl
  parts_make
    | .at0 _ | .at1 () | .at2 _ | .at3 _ | .at4 _ => rfl

/-- Layout of a receiver. -/
def MultiAddress.schema : Schema MultiAddress :=
  .via variants <| .choice "MultiAddress" <|
    .payload 0 "Id" AccountId.schema <|
    .plain 1 "Index" <|
    .payload 2 "Raw" .bytes <|
    .payload 3 "Address32" (.array 32) <|
    .payload 4 "Address20" (.array 20) .none

end EnclaveChain
