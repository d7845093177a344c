import EnclaveChain.Registry.Consistency
import Mathlib.Data.List.Nodup

/-!
# Consistent registries

The check of a registry goes through its lists from the front and compares each entry with those
before it. What it accepts is said here without an order: names and indices differ, an item that
names key types names as many as it has hashers, and an item with a default has bytes for it
(`Registry.validate_eq_ok_iff`).
-/
namespace EnclaveChain

universe u v

section Distinct

variable {α : Type u} {β : Type v} {key : α → β} {before entries : List α} {entry : α}

/-- Entries whose keys differ from each other and from those of the entries before them. -/
def DistinctAfter (key : α → β) (before entries : List α) : Prop :=
  (entries.map key).Nodup ∧ ∀ entry ∈ entries, key entry ∉ before.map key

/-- No entries are always distinct. -/
theorem distinctAfter_nil (key : α → β) (before : List α) : DistinctAfter key before [] :=
  ⟨List.nodup_nil, by simp⟩

/-- Entries are distinct when the first one is new and the others are distinct after it. -/
theorem distinctAfter_cons :
    DistinctAfter key before (entry :: entries) ↔
      key entry ∉ before.map key ∧ DistinctAfter key (before ++ [entry]) entries := by
  have split : ∀ other : α, key other ∉ (before ++ [entry]).map key ↔
      key other ∉ before.map key ∧ key other ≠ key entry := by
    intro other
    rw [List.map_append, List.mem_append, not_or, List.map_singleton, List.mem_singleton]
  have first : key entry ∉ entries.map key ↔ ∀ other ∈ entries, key other ≠ key entry := by
    rw [List.mem_map]
    push Not
    rfl
  simp only [DistinctAfter, List.map_cons, List.nodup_cons, List.mem_cons, forall_eq_or_imp,
    split, first]
  constructor
  · rintro ⟨⟨apart, distinct⟩, new, others⟩
    exact ⟨new, distinct, fun other member => ⟨others other member, apart other member⟩⟩
  · rintro ⟨new, distinct, others⟩
    exact ⟨⟨fun other member => (others other member).2, distinct⟩, new,
      fun other member => (others other member).1⟩

/-- With nothing before them, entries only have to differ from each other. -/
theorem distinctAfter_empty : DistinctAfter key [] entries ↔ (entries.map key).Nodup := by
  simp [DistinctAfter]

end Distinct

/-- An item that can be read as it says. -/
structure StorageEntry.IsConsistent (entry : StorageEntry) : Prop where
  /-- Named key types are as many as the hashers. -/
  keyCount : entry.keyTypes ≠ [] → entry.keyTypes.length = entry.hashers.length
  /-- A default has bytes. -/
  defaultBytes : entry.modifier = .default → entry.default ≠ []

/-- A pallet whose calls and items are told apart. -/
structure PalletEntry.IsConsistent (pallet : PalletEntry) : Prop where
  /-- No two calls have one name. -/
  callNames : (pallet.calls.map (·.name)).Nodup
  /-- No two calls have one index. -/
  callIndices : (pallet.calls.map (·.index)).Nodup
  /-- No two items have one name. -/
  itemNames : (pallet.storage.map (·.name)).Nodup
  /-- Every item is consistent. -/
  items : ∀ entry ∈ pallet.storage, entry.IsConsistent

/-- A registry whose pallets are told apart and consistent. -/
structure Registry.IsConsistent (registry : Registry) : Prop where
  /-- No two pallets have one name. -/
  palletNames : (registry.pallets.map (·.name)).Nodup
  /-- No two pallets have one index. -/
  palletIndices : (registry.pallets.map (·.index)).Nodup
  /-- Every pallet is consistent. -/
  pallets : ∀ pallet ∈ registry.pallets, pallet.IsConsistent

namespace PalletEntry

/-- Calls are accepted when their names and their indices are new and differ. -/
theorem checkCalls_eq_ok_iff {pallet : String} {before calls : List CallEntry} :
    checkCalls pallet before calls = .ok () ↔
      DistinctAfter (·.name) before calls ∧ DistinctAfter (·.index) before calls := by
  induction calls generalizing before with
  | nil => simp [checkCalls, distinctAfter_nil]
  | cons call calls ih =>
    rw [checkCalls, distinctAfter_cons, distinctAfter_cons]
    by_cases known : call.name ∈ before.map (·.name) ∨ call.index ∈ before.map (·.index)
    · rw [if_pos known]
      simp only [reduceCtorEq, false_iff]
      rintro ⟨⟨name, -⟩, index, -⟩
      exact known.elim name index
    · rw [if_neg known, ih]
      obtain ⟨name, index⟩ := not_or.mp known
      simp only [name, index, not_false_eq_true, true_and]

/-- Items are accepted when their names are new and differ and each of them is consistent. -/
theorem checkItems_eq_ok_iff {pallet : String} {before entries : List StorageEntry} :
    checkItems pallet before entries = .ok () ↔
      DistinctAfter (·.name) before entries ∧ ∀ entry ∈ entries, entry.IsConsistent := by
  induction entries generalizing before with
  | nil => simp [checkItems, distinctAfter_nil]
  | cons entry entries ih =>
    rw [checkItems, distinctAfter_cons, List.forall_mem_cons]
    by_cases known : entry.name ∈ before.map (·.name)
    · simp [known]
    rw [if_neg known]
    by_cases counted : entry.keyTypes ≠ [] ∧ entry.keyTypes.length ≠ entry.hashers.length
    · rw [if_pos counted]
      simp only [reduceCtorEq, false_iff]
      rintro ⟨-, consistent, -⟩
      exact counted.2 (consistent.keyCount counted.1)
    rw [if_neg counted]
    by_cases missing : entry.modifier = .default ∧ entry.default = []
    · rw [if_pos missing]
      simp only [reduceCtorEq, false_iff]
      rintro ⟨-, consistent, -⟩
      exact consistent.defaultBytes missing.1 missing.2
    · rw [if_neg missing, ih]
      have consistent : entry.IsConsistent :=
        ⟨fun some => not_not.mp fun other => counted ⟨some, other⟩,
          fun kind none => missing ⟨kind, none⟩⟩
      simp only [known, consistent, not_false_eq_true, true_and]

/-- A pallet is consistent when its calls and its items are accepted. -/
theorem isConsistent_iff (pallet : PalletEntry) :
    pallet.IsConsistent ↔
      checkCalls pallet.name [] pallet.calls = .ok () ∧
        checkItems pallet.name [] pallet.storage = .ok () := by
  simp only [checkCalls_eq_ok_iff, checkItems_eq_ok_iff, distinctAfter_empty]
  constructor
  · rintro ⟨callNames, callIndices, itemNames, items⟩
    exact ⟨⟨callNames, callIndices⟩, itemNames, items⟩
  · rintro ⟨⟨callNames, callIndices⟩, itemNames, items⟩
    exact ⟨callNames, callIndices, itemNames, items⟩

end PalletEntry

namespace Registry

/-- Pallets are accepted when their names and their indices are new and differ and each of them is
consistent. -/
theorem checkPallets_eq_ok_iff {before pallets : List PalletEntry} :
    checkPallets before pallets = .ok () ↔
      DistinctAfter (·.name) before pallets ∧ DistinctAfter (·.index) before pallets ∧
        ∀ pallet ∈ pallets, pallet.IsConsistent := by
  induction pallets generalizing before with
  | nil => simp [checkPallets, distinctAfter_nil]
  | cons pallet pallets ih =>
    rw [checkPallets, distinctAfter_cons, distinctAfter_cons, List.forall_mem_cons,
      pallet.isConsistent_iff]
    by_cases named : pallet.name ∈ before.map (·.name)
    · simp [named]
    rw [if_neg named]
    by_cases numbered : pallet.index ∈ before.map (·.index)
    · simp [numbered]
    rw [if_neg numbered]
    cases called : PalletEntry.checkCalls pallet.name [] pallet.calls with
    | error fault => simp
    | ok found =>
      cases stored : PalletEntry.checkItems pallet.name [] pallet.storage with
      | error fault => simp
      | ok found => simp only [ih, named, numbered, not_false_eq_true, true_and, and_self]

/-- A registry is accepted exactly when it is consistent. -/
theorem validate_eq_ok_iff {registry : Registry} :
    registry.validate = .ok () ↔ registry.IsConsistent := by
  rw [validate, checkPallets_eq_ok_iff, distinctAfter_empty, distinctAfter_empty]
  constructor
  · rintro ⟨names, indices, pallets⟩
    exact ⟨names, indices, pallets⟩
  · rintro ⟨names, indices, pallets⟩
    exact ⟨names, indices, pallets⟩

end Registry

end EnclaveChain
