import EnclaveChain.Proofs.Storage.Derivation

/-!
# Keys tell their arguments

Where the hashers of an item keep their arguments, a key holds all of them, but nothing in it says
where one ends and the next hash begins. The lengths of the arguments do, and only they are needed:
two lists of arguments whose lengths agree, except perhaps at the last position, have different
keys unless they are equal. Hashes are only cut off for this, so they may collide as they like.
-/
namespace EnclaveChain

namespace StorageKey

/-- Arguments that are kept can be told from their hashed forms, if it is known where each of them
but the last ends. -/
theorem eq_of_hashed_eq {hashers : List Hasher} (keep : ∀ hasher ∈ hashers, hasher.keepsKey)
    {left right : List Bytes} (leftCounted : left.length = hashers.length)
    (rightCounted : right.length = hashers.length)
    (aligned : left.dropLast.map List.length = right.dropLast.map List.length)
    (same : hashed hashers left = hashed hashers right) : left = right := by
  induction hashers generalizing left right with
  | nil =>
    rw [List.length_eq_zero_iff.mp leftCounted, List.length_eq_zero_iff.mp rightCounted]
  | cons hasher hashers ih =>
    rw [List.forall_mem_cons] at keep
    obtain ⟨first, others, rfl⟩ := List.exists_cons_of_length_eq_add_one leftCounted
    obtain ⟨second, rest, rfl⟩ := List.exists_cons_of_length_eq_add_one rightCounted
    rw [List.length_cons, List.length_cons, Nat.add_right_cancel_iff] at leftCounted rightCounted
    rw [hashed_cons, hashed_cons] at same
    have opened := Hasher.append_eq_of_apply_append_eq keep.1 same
    cases others with
    | nil =>
      -- The last argument reaches to the end, whatever its length.
      obtain rfl : hashers = [] := List.length_eq_zero_iff.mp leftCounted.symm
      obtain rfl : rest = [] := List.length_eq_zero_iff.mp rightCounted
      simpa using opened
    | cons next later =>
      cases rest with
      | nil => simp [← leftCounted] at rightCounted
      | cons other after =>
        rw [List.dropLast_cons_cons, List.dropLast_cons_cons, List.map_cons, List.map_cons,
          List.cons.injEq] at aligned
        obtain ⟨rfl, remaining⟩ := List.append_inj opened aligned.1
        rw [ih keep.2 leftCounted rightCounted aligned.2 remaining]

end StorageKey

/-- Without the lengths, arguments could be cut apart in two ways. -/
example :
    StorageKey.hashed [.identity, .identity] [[1], [2, 3]] =
      StorageKey.hashed [.identity, .identity] [[1, 2], [3]] := rfl

/-- Different arguments give different keys, in any registry and for any item whose hashers keep
their arguments. Two lists of arguments, as many as the item asks for and of the same lengths but
for the last, both have keys, and if the keys are equal the lists are. -/
theorem keys_tell_arguments {registry : Registry} {pallet item : String} {entry : StorageEntry}
    (listed : registry.Lists pallet item entry)
    (keep : ∀ hasher ∈ entry.hashers,
      hasher ∈ [Hasher.blake128Concat, Hasher.twox64Concat, Hasher.identity])
    (left right : List Bytes) (leftCounted : left.length = entry.hashers.length)
    (rightCounted : right.length = entry.hashers.length)
    (aligned : left.dropLast.map List.length = right.dropLast.map List.length) :
    ∃ leftKey rightKey, StorageKey.derive registry pallet item left = .ok leftKey ∧
      StorageKey.derive registry pallet item right = .ok rightKey ∧
      (leftKey = rightKey → left = right) := by
  have kept : ∀ hasher ∈ entry.hashers, hasher.keepsKey := by
    intro hasher member
    have among := keep hasher member
    simp only [List.mem_cons, List.not_mem_nil, or_false] at among
    rcases among with rfl | rfl | rfl <;> rfl
  refine ⟨_, _, StorageKey.derive_eq_ok_iff.mpr ⟨entry, listed, leftCounted.symm, rfl⟩,
    StorageKey.derive_eq_ok_iff.mpr ⟨entry, listed, rightCounted.symm, rfl⟩, ?_⟩
  intro same
  rw [StorageKey.mk.injEq, List.append_cancel_left_eq] at same
  exact StorageKey.eq_of_hashed_eq kept leftCounted rightCounted aligned same

/-- A registry with one item, whose three arguments are hashed in three ways. -/
def triple : Registry :=
  ⟨1, [⟨"Pool", 9, [], [⟨"Shares", .optional, [.identity, .twox64Concat, .blake128Concat],
    ["u8", "u8", "Vec<u8>"], "u64", []⟩]⟩]⟩

/-- Its keys of arguments that differ in the last one only, by a byte more, are apart. -/
theorem keys_tell_arguments_triple :
    ∃ leftKey rightKey, StorageKey.derive triple "Pool" "Shares" [[1], [2], [3]] = .ok leftKey ∧
      StorageKey.derive triple "Pool" "Shares" [[1], [2], [3, 4]] = .ok rightKey ∧
      leftKey ≠ rightKey := by
  have listed := Registry.storageItem_eq_ok_iff_lists.mp
    (rfl : triple.storageItem "Pool" "Shares" = .ok _)
  obtain ⟨leftKey, rightKey, leftDerived, rightDerived, apart⟩ :=
    keys_tell_arguments listed (by decide) [[1], [2], [3]] [[1], [2], [3, 4]] rfl rfl rfl
  refine ⟨leftKey, rightKey, leftDerived, rightDerived, ?_⟩
  intro same
  cases apart same

end EnclaveChain
