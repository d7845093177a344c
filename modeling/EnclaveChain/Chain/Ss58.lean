import EnclaveChain.Hash.Blake2b
import EnclaveChain.Text.Base58
import EnclaveChain.Text.Hex

/-!
# Account addresses

The text by which people name an account: the kind of the address, the key of the account, and two
bytes of a hash by which a mistyped address is noticed, all to the base 58.
-/
namespace EnclaveChain.Ss58

/-- The kind of addresses that belong to no particular chain. -/
def genericKind : UInt8 := 42

/-- What is hashed in front of an address for its check bytes. -/
def domain : Bytes := Hex.utf8 "SS58PRE"

/-- The two check bytes of a kind and a key. -/
def check (body : Bytes) : Bytes := (Hash.Blake2b.blake2b512 (domain ++ body)).take 2

/-- The address of the account that has a key. -/
def address (key : FixedBytes 32) : String :=
  let body := genericKind :: key.toList
  Base58.encode (body ++ check body)

end EnclaveChain.Ss58
