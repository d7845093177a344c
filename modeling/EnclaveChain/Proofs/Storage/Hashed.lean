import EnclaveChain.Storage.Key

/-!
# Hashed arguments

Some hashers put a hash of a fixed length in front of an argument and keep the argument, which is
all that is used of them here. Where two keys stand in one position of two storage keys, the hashes
in front of them can then be taken off, whatever follows. No hash needs to be free of collisions
for that.
-/
namespace EnclaveChain

namespace Hasher

/-- Whether the hashed form of a key ends with the key itself. -/
def keepsKey : Hasher → Bool
  | blake128Concat | twox64Concat | identity => true
  | blake128 | blake256 | twox128 | twox256 => false

/-- A hasher that keeps the key puts a hash of a fixed length in front of it. -/
theorem exists_hash {hasher : Hasher} (keeps : hasher.keepsKey) :
    ∃ (hash : Bytes → Bytes) (size : Nat),
      (∀ key, (hash key).length = size) ∧ ∀ key, hasher.apply key = hash key ++ key := by
  cases hasher with
  | blake128Concat =>
    exact ⟨Hash.Blake2b.blake2b128, 16, Hash.Blake2b.length_blake2b128, fun _ => rfl⟩
  | twox64Concat => exact ⟨Hash.XxHash.twox64, 8, Hash.XxHash.length_twox64, fun _ => rfl⟩
  | identity => exact ⟨fun _ => [], 0, fun _ => rfl, fun _ => rfl⟩
  | blake128 => cases keeps
  | blake256 => cases keeps
  | twox128 => cases keeps
  | twox256 => cases keeps

/-- The hashes are taken off two byte strings that open with hashed keys. -/
theorem append_eq_of_apply_append_eq {hasher : Hasher} (keeps : hasher.keepsKey)
    {left right leftRest rightRest : Bytes}
    (same : hasher.apply left ++ leftRest = hasher.apply right ++ rightRest) :
    left ++ leftRest = right ++ rightRest := by
  obtain ⟨hash, size, sized, applied⟩ := exists_hash keeps
  rw [applied left, applied right, List.append_assoc, List.append_assoc] at same
  exact (List.append_inj same (by rw [sized left, sized right])).2

end Hasher

namespace StorageKey

/-- Without hashers nothing is hashed. -/
@[simp]
theorem hashed_nil (keys : List Bytes) : hashed [] keys = [] := rfl

/-- The first argument is hashed by the first hasher. -/
@[simp]
theorem hashed_cons (hasher : Hasher) (hashers : List Hasher) (key : Bytes) (keys : List Bytes) :
    hashed (hasher :: hashers) (key :: keys) = hasher.apply key ++ hashed hashers keys := rfl

end StorageKey

end EnclaveChain
