import EnclaveChain.Registry.Lookup

/-!
# Lookups where names and indices are apart

A lookup takes the first entry of a name or of an index. Where no two entries share it, that entry
is the only one, so every entry is found by its own.
-/
namespace EnclaveChain

universe u v

/-- Where keys are apart, an entry is the first one with its key. -/
theorem find?_eq_some_of_mem {α : Type u} {β : Type v} [DecidableEq β] {key : α → β}
    {entries : List α} (apart : (entries.map key).Nodup) {entry : α} (member : entry ∈ entries) :
    entries.find? (fun other => key other = key entry) = some entry := by
  induction entries with
  | nil => cases member
  | cons first entries ih =>
    rw [List.map_cons, List.nodup_cons] at apart
    rcases List.mem_cons.mp member with rfl | later
    · simp
    · have other : key first ≠ key entry := by
        intro same
        exact apart.1 (same ▸ List.mem_map_of_mem later)
      rw [List.find?_cons_of_neg (by simpa using other)]
      exact ih apart.2 later

/-- What is found by a key is an entry that has the key. -/
theorem mem_of_find?_key {α : Type u} {β : Type v} [DecidableEq β] {key : α → β}
    {entries : List α} {wanted : β} {entry : α}
    (found : entries.find? (fun other => key other = wanted) = some entry) :
    entry ∈ entries ∧ key entry = wanted :=
  ⟨List.mem_of_find?_eq_some found, by simpa using List.find?_some found⟩

/-- Where keys are apart, an entry is found by a key exactly when it is listed and has the key. -/
theorem find?_key_eq_some_iff {α : Type u} {β : Type v} [DecidableEq β] {key : α → β}
    {entries : List α} (apart : (entries.map key).Nodup) {wanted : β} {entry : α} :
    entries.find? (fun other => key other = wanted) = some entry ↔
      entry ∈ entries ∧ key entry = wanted := by
  constructor
  · exact mem_of_find?_key
  · rintro ⟨member, rfl⟩
    exact find?_eq_some_of_mem apart member

namespace Registry

variable {registry : Registry} {pallet : PalletEntry}

/-- A pallet is found by its index. -/
theorem palletAt?_of_mem (apart : (registry.pallets.map (·.index)).Nodup)
    (member : pallet ∈ registry.pallets) : registry.palletAt? pallet.index = some pallet :=
  find?_eq_some_of_mem apart member

/-- An item is found in the pallet that is found. -/
theorem storageItem_eq_ok_iff {registry : Registry} {pallet item : String} {entry : StorageEntry} :
    registry.storageItem pallet item = .ok entry ↔
      ∃ owner, registry.pallet? pallet = some owner ∧ owner.item? item = some entry := by
  rw [storageItem, Registry.pallet]
  cases registry.pallet? pallet with
  | none => simp
  | some owner => cases found : owner.item? item <;> simp [found]

/-- A call is found in the pallet that is found. -/
theorem callAt_eq_ok_iff {registry : Registry} {pallet call : UInt8} {owner : PalletEntry}
    {entry : CallEntry} :
    registry.callAt pallet call = .ok (owner, entry) ↔
      registry.palletAt? pallet = some owner ∧ owner.callAt? call = some entry := by
  rw [callAt]
  cases registry.palletAt? pallet with
  | none => simp
  | some found =>
    simp only [Option.some.injEq]
    cases inside : found.callAt? call with
    | none =>
      simp only [reduceCtorEq, false_iff]
      rintro ⟨rfl, called⟩
      rw [inside] at called
      cases called
    | some other =>
      simp only [Except.ok.injEq, Prod.mk.injEq]
      constructor
      · rintro ⟨rfl, rfl⟩
        exact ⟨rfl, inside⟩
      · rintro ⟨rfl, called⟩
        exact ⟨rfl, Option.some.inj (inside.symm.trans called)⟩

/-- A call is found by its index and that of its pallet. -/
theorem callAt_of_mem (apart : (registry.pallets.map (·.index)).Nodup)
    (member : pallet ∈ registry.pallets) (callsApart : (pallet.calls.map (·.index)).Nodup)
    {entry : CallEntry} (inside : entry ∈ pallet.calls) :
    registry.callAt pallet.index entry.index = .ok (pallet, entry) :=
  callAt_eq_ok_iff.mpr ⟨palletAt?_of_mem apart member, find?_eq_some_of_mem callsApart inside⟩

/-- A call is unknown exactly when no pallet of the index lists it. -/
theorem callAt_eq_error_iff (apart : (registry.pallets.map (·.index)).Nodup)
    (first second : UInt8) :
    registry.callAt first second = .error (.unknownCall first second) ↔
      ∀ entry ∈ registry.pallets, entry.index = first → second ∉ entry.calls.map (·.index) := by
  constructor
  · rintro unknown entry member rfl listed
    obtain ⟨call, inside, rfl⟩ := List.mem_map.mp listed
    rw [callAt, palletAt?_of_mem apart member] at unknown
    cases found : entry.callAt? call.index with
    | none => simpa using List.find?_eq_none.mp found call inside
    | some other =>
      simp only [found] at unknown
      cases unknown
  · intro unlisted
    rw [callAt]
    cases found : registry.palletAt? first with
    | none => rfl
    | some entry =>
      obtain ⟨member, same⟩ := mem_of_find?_key found
      have missing : entry.callAt? second = none := by
        rw [PalletEntry.callAt?, List.find?_eq_none]
        intro call inside named
        have listed : second ∈ entry.calls.map (·.index) := by
          rw [← of_decide_eq_true named]
          exact List.mem_map_of_mem inside
        exact unlisted entry member same listed
      simp only [missing]

end Registry

end EnclaveChain
