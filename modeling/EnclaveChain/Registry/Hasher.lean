import EnclaveChain.Hash.Blake2b
import EnclaveChain.Hash.XxHash

/-!
# Hashers of storage keys

A storage map names a hasher for each of its keys. Some keep the key after its hash, so that the
key can be read back from the place where the value is stored.
-/
namespace EnclaveChain

/-- How a key of a storage map is turned into a part of the storage key. -/
inductive Hasher where
  /-- BLAKE2b of 128 bits. -/
  | blake128
  /-- BLAKE2b of 256 bits. -/
  | blake256
  /-- BLAKE2b of 128 bits, then the key. -/
  | blake128Concat
  /-- XXH64 of 128 bits. -/
  | twox128
  /-- XXH64 of 256 bits. -/
  | twox256
  /-- XXH64 of 64 bits, then the key. -/
  | twox64Concat
  /-- The key as it is. -/
  | identity
deriving DecidableEq, Repr

namespace Hasher

/-- All hashers. -/
def all : List Hasher :=
  [blake128, blake256, blake128Concat, twox128, twox256, twox64Concat, identity]

/-- The name of a hasher in a registry. -/
def name : Hasher → String
  | blake128 => "Blake2_128"
  | blake256 => "Blake2_256"
  | blake128Concat => "Blake2_128Concat"
  | twox128 => "Twox128"
  | twox256 => "Twox256"
  | twox64Concat => "Twox64Concat"
  | identity => "Identity"

/-- The hashed form of an encoded key. -/
def apply : Hasher → Bytes → Bytes
  | blake128, key => Hash.Blake2b.blake2b128 key
  | blake256, key => Hash.Blake2b.blake2b256 key
  | blake128Concat, key => Hash.Blake2b.blake2b128 key ++ key
  | twox128, key => Hash.XxHash.twox128 key
  | twox256, key => Hash.XxHash.twox256 key
  | twox64Concat, key => Hash.XxHash.twox64 key ++ key
  | identity, key => key

/-- The length of the hashed form of a key of a given length. -/
def width : Hasher → Nat → Nat
  | blake128, _ => 16
  | blake256, _ => 32
  | blake128Concat, length => 16 + length
  | twox128, _ => 16
  | twox256, _ => 32
  | twox64Concat, length => 8 + length
  | identity, length => length

/-- The hashed form of a key has the declared length. -/
@[simp]
theorem length_apply (hasher : Hasher) (key : Bytes) :
    (hasher.apply key).length = hasher.width key.length := by
  cases hasher <;> simp [apply, width]

end Hasher

end EnclaveChain
