import EnclaveChain.Proofs.Registry.StorageLayout

/-!
# Keys of an item in sorted keys

Keys are sorted as byte strings, and what lies between two byte strings that begin alike begins
like them (`prefix_of_between`). So the keys that begin with a stem stand side by side in sorted
keys. The stem of an item begins the keys of its own entries and no others, because stems have one
length and no two items share one, and so a scan for the stem finds the item (`item_keys_together`).
-/
namespace EnclaveChain

/-! ### The order of keys -/

/-- Between two byte strings that begin alike all byte strings begin so. -/
theorem prefix_of_between {stem low middle high : Bytes} (above : low ≤ middle)
    (below : middle ≤ high) (first : stem <+: low) (last : stem <+: high) : stem <+: middle := by
  induction stem generalizing low middle high with
  | nil => exact List.nil_prefix
  | cons byte stem ih =>
    obtain ⟨lowRest, rfl⟩ := first
    obtain ⟨highRest, rfl⟩ := last
    rw [List.cons_append] at above below
    cases middle with
    | nil => exact absurd above (List.not_le.mpr (List.nil_lt_cons _ _))
    | cons other middle =>
      rw [List.cons_le_cons_iff] at above below
      -- the first byte is held from both sides
      have same : byte = other := by
        rcases above with less | ⟨same, -⟩
        · rcases below with more | ⟨same, -⟩
          · exact absurd more (UInt8.lt_asymm less)
          · exact same.symm
        · exact same
      subst same
      have lowBelow : stem ++ lowRest ≤ middle := (above.resolve_left (UInt8.lt_irrefl _)).2
      have highAbove : middle ≤ stem ++ highRest := (below.resolve_left (UInt8.lt_irrefl _)).2
      have rest := ih lowBelow highAbove (List.prefix_append _ _) (List.prefix_append _ _)
      exact List.cons_prefix_cons.mpr ⟨rfl, rest⟩

namespace StorageKey

/-- Sorting keeps the keys. -/
theorem sort_perm (keys : List StorageKey) : (sort keys).Perm keys := List.mergeSort_perm _ _

/-- Sorted keys are in order. -/
theorem pairwise_sort (keys : List StorageKey) : (sort keys).Pairwise (· ≤ ·) := by
  have transitive : ∀ first second third : StorageKey, decide (first ≤ second) = true →
      decide (second ≤ third) = true → decide (first ≤ third) = true := by
    intro first second third before after
    exact decide_eq_true (List.le_trans (of_decide_eq_true before) (of_decide_eq_true after))
  have total : ∀ first second : StorageKey,
      (decide (first ≤ second) || decide (second ≤ first)) = true := by
    intro first second
    rw [Bool.or_eq_true, decide_eq_true_iff, decide_eq_true_iff]
    exact List.le_total first.bytes second.bytes
  exact (List.pairwise_mergeSort transitive total keys).imp of_decide_eq_true

/-! ### Stretches -/

/-- Some of the keys begin with a stem and stand together, and no key before them or after them
begins with it. -/
def IsStretch (stem : StorageKey) (keys found : List StorageKey) : Prop :=
  ∃ before after, keys = before ++ found ++ after ∧
    (∀ key ∈ found, stem.bytes <+: key.bytes) ∧
    ∀ key ∈ before ++ after, ¬ stem.bytes <+: key.bytes

variable {stem : StorageKey} {keys found : List StorageKey}

/-- Sorted keys have a stretch for every stem. -/
theorem exists_isStretch (stem : StorageKey) (sorted : keys.Pairwise (· ≤ ·)) :
    ∃ found, stem.IsStretch keys found := by
  induction keys with
  | nil => exact ⟨[], [], [], rfl, by simp, by simp⟩
  | cons key keys ih =>
    rw [List.pairwise_cons] at sorted
    obtain ⟨least, sorted⟩ := sorted
    obtain ⟨found, before, after, rfl, begins, others⟩ := ih sorted
    by_cases first : stem.bytes <+: key.bytes
    · cases before with
      | nil =>
        have begins : ∀ other ∈ key :: found, stem.bytes <+: other.bytes :=
          List.forall_mem_cons.mpr ⟨first, begins⟩
        exact ⟨key :: found, [], after, rfl, begins, others⟩
      | cons other before =>
        -- a key that does not begin with the stem stands between, so nothing was found behind it
        have nothing : found = [] := by
          refine List.eq_nil_iff_forall_not_mem.mpr fun last inside => ?_
          have above : key ≤ other := least other (by simp)
          have below : other ≤ last := by
            rw [List.cons_append, List.cons_append, List.pairwise_cons] at sorted
            exact sorted.1 last (by simp [inside])
          exact others other (by simp) (prefix_of_between above below first (begins last inside))
        subst nothing
        refine ⟨[key], [], other :: before ++ after, by simp, by simpa using first, ?_⟩
        simpa using others
    · refine ⟨found, key :: before, after, rfl, begins, ?_⟩
      rw [List.cons_append]
      exact List.forall_mem_cons.mpr ⟨first, others⟩

/-- A stretch is all that begins with the stem. -/
theorem IsStretch.eq_filter (stretch : stem.IsStretch keys found) :
    found = keys.filter fun key => stem.bytes <+: key.bytes := by
  obtain ⟨before, after, rfl, begins, others⟩ := stretch
  have ahead : before.filter (fun key => stem.bytes <+: key.bytes) = [] := by
    rw [List.filter_eq_nil_iff]
    intro key member
    simpa using others key (List.mem_append_left _ member)
  have behind : after.filter (fun key => stem.bytes <+: key.bytes) = [] := by
    rw [List.filter_eq_nil_iff]
    intro key member
    simpa using others key (List.mem_append_right _ member)
  have between : found.filter (fun key => stem.bytes <+: key.bytes) = found := by
    rw [List.filter_eq_self]
    intro key member
    simpa using begins key member
  rw [List.filter_append, List.filter_append, ahead, behind, between]
  simp

end StorageKey

/-! ### Items -/

/-- The key of an item in the built-in registry is its stem. -/
theorem StorageItem.ofItem_eq (item : StorageItem) :
    StorageKey.ofItem Registry.builtin item.layout.pallet.name item.layout.name =
      .ok ⟨item.stem⟩ := by
  obtain ⟨entry, listed, named, -⟩ := item.storageItem_eq
  rw [StorageKey.ofItem, listed]
  simp only [named]
  rfl

namespace Slot

/-- The address of a slot has the names of an item exactly if the slot is one of this item. -/
theorem address_named_iff (slot : Slot) (item : StorageItem) :
    slot.address.pallet = item.layout.pallet.name ∧ slot.address.item = item.layout.name ↔
      slot.item = item := by
  constructor
  · rintro ⟨pallets, names⟩
    exact StorageItem.names_injective (Prod.ext pallets names)
  · rintro rfl
    exact ⟨rfl, rfl⟩

/-- The stem of an item begins the places of its own slots and no others. -/
theorem stem_prefix_place_iff (slot : Slot) (item : StorageItem) :
    item.stem <+: slot.place.bytes ↔ slot.item = item := by
  constructor
  · rintro ⟨rest, same⟩
    have stems := (List.append_inj same (by simp)).1
    exact (StorageItem.stem_injective stems).symm
  · rintro rfl
    exact List.prefix_append _ _

/-- All slots have keys, which are their places. -/
theorem mapM_address_key (slots : List Slot) :
    slots.mapM (fun slot => slot.address.key Registry.builtin) = .ok (slots.map place) := by
  have keys : (fun slot : Slot => slot.address.key Registry.builtin) =
      fun slot => pure slot.place := by
    funext slot
    exact slot.address_key
  rw [keys, List.mapM_pure]
  rfl

end Slot

/-- The entries of an item are found by a scan for the key of the item. Let the keys of any slots
be sorted. Then for every item of the built-in registry the keys that begin with the key of the
item stand together, and they are the keys of the addresses with the names of the item, each as
often as there are such addresses. In general, what lies between two keys that begin with some
bytes begins with them. -/
theorem item_keys_together (slots : List Slot) :
    (∃ keys, slots.mapM (fun slot => slot.address.key Registry.builtin) = .ok keys ∧
      (StorageKey.sort keys).Perm keys ∧ (StorageKey.sort keys).Pairwise (· ≤ ·) ∧
      ∀ owner ∈ Registry.builtin.pallets, ∀ entry ∈ owner.storage,
        ∃ stem found itemKeys,
          StorageKey.ofItem Registry.builtin owner.name entry.name = .ok stem ∧
          stem.IsStretch (StorageKey.sort keys) found ∧
          (slots.filter fun slot =>
              slot.address.pallet = owner.name ∧ slot.address.item = entry.name).mapM
            (fun slot => slot.address.key Registry.builtin) = .ok itemKeys ∧
          found.Perm itemKeys) ∧
    ∀ (low key high : StorageKey) (stem : Bytes), low ≤ key → key ≤ high →
      stem <+: low.bytes → stem <+: high.bytes → stem <+: key.bytes := by
  constructor
  · refine ⟨slots.map Slot.place, Slot.mapM_address_key slots, StorageKey.sort_perm _,
      StorageKey.pairwise_sort _, ?_⟩
    intro owner member entry inside
    have listed : (owner.name, entry.name) ∈ Registry.builtin.itemNames :=
      List.mem_flatMap.mpr ⟨owner, member, List.mem_map_of_mem inside⟩
    obtain ⟨item, -, named⟩ := exists_item_of_mem_itemNames _ listed
    obtain ⟨palletName, itemName⟩ := Prod.mk.inj named
    have chosen : (slots.filter fun slot =>
        slot.address.pallet = owner.name ∧ slot.address.item = entry.name) =
        slots.filter fun slot => item.stem <+: slot.place.bytes := by
      refine List.filter_congr fun slot _ => ?_
      rw [← palletName, ← itemName, decide_eq_decide, slot.address_named_iff,
        slot.stem_prefix_place_iff]
    obtain ⟨found, stretch⟩ :=
      StorageKey.exists_isStretch ⟨item.stem⟩ (StorageKey.pairwise_sort (slots.map Slot.place))
    refine ⟨⟨item.stem⟩, found, _, ?_, stretch, Slot.mapM_address_key _, ?_⟩
    · rw [← palletName, ← itemName, item.ofItem_eq]
    · have kept := (StorageKey.sort_perm (slots.map Slot.place)).filter
        fun key => item.stem <+: key.bytes
      rw [stretch.eq_filter, chosen]
      rw [List.filter_map] at kept
      exact kept
  · intro low key high stem above below first last
    exact prefix_of_between above below first last

/-- The prices of apps of two service levels stand together, though a GPU job, whose item has the
same name, is given between them. What lies between a key and a longer one begins like both. -/
theorem item_keys_together_prices :
    let app (level : UInt8) : Slot := .mk .appPrices level
    let gpu (level : UInt8) : Slot := .mk .gpuPrices level
    (∃ stem found, StorageKey.ofItem Registry.builtin "WeteeApp" "Prices" = .ok stem ∧
      stem.IsStretch (StorageKey.sort [(app 1).place, (gpu 1).place, (app 0).place]) found ∧
      found.Perm [(app 1).place, (app 0).place]) ∧
    (⟨[1]⟩ : StorageKey) ≤ ⟨[1, 0]⟩ ∧ (⟨[1, 0]⟩ : StorageKey) ≤ ⟨[1, 2]⟩ ∧
      ([1] : Bytes) <+: [1, 0] := by
  intro app gpu
  obtain ⟨⟨keys, derived, -, -, together⟩, between⟩ := item_keys_together [app 1, gpu 1, app 0]
  refine ⟨?_, by decide, by decide, ?_⟩
  · have listed : ∃ owner ∈ Registry.builtin.pallets, owner.name = "WeteeApp" ∧
        ∃ entry ∈ owner.storage, entry.name = "Prices" := by decide +kernel
    obtain ⟨owner, member, pallet, entry, inside, item⟩ := listed
    obtain ⟨stem, found, itemKeys, named, stretch, chosen, same⟩ :=
      together owner member entry inside
    rw [pallet, item] at named chosen
    have those : ([app 1, gpu 1, app 0].filter fun slot =>
        slot.address.pallet = "WeteeApp" ∧ slot.address.item = "Prices") = [app 1, app 0] := rfl
    rw [those, Slot.mapM_address_key] at chosen
    rw [Slot.mapM_address_key] at derived
    obtain rfl := Except.ok.inj derived
    obtain rfl := Except.ok.inj chosen
    exact ⟨stem, found, named, stretch, same⟩
  · exact between ⟨[1]⟩ ⟨[1, 0]⟩ ⟨[1, 2]⟩ [1] (by decide) (by decide) (by decide) (by decide)

end EnclaveChain
