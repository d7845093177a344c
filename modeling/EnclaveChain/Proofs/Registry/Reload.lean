import EnclaveChain.Proofs.Registry.Denotation

/-!
# A registry that is written is read back

The tree of a registry denotes the registry, at every level: names and types are strings of any
characters, indices and versions are written in all their digits, and default bytes are written
with the mark that may stand before digits. The writer follows the grammar, so the text of a
registry is JSON with this tree and never fails to be parsed; only its consistency is left to ask.
-/
namespace EnclaveChain

open Json

/-! ### Values -/

namespace Json.Tree

/-- Strings are written character by character. -/
theorem denotesString_ofString (text : String) : (ofString text).DenotesString text := rfl

/-- Natural numbers are written in all their digits. -/
theorem denotesNatural_ofNat {bits value : Nat} (bound : value < 2 ^ bits) :
    (ofNat value).DenotesNatural bits value := by
  refine ⟨bound, (Numeral.ofNat value).whole, rfl, ?_⟩
  rw [whole_ofNat]
  split
  · next zero => rw [zero]; rfl
  · rw [List.reverse_reverse, Nat.ofDigits_digits]

/-- Lists are written item by item. -/
theorem denotesList_map {α : Type} {denotes : Tree → α → Prop} {toTree : α → Tree}
    (denoted : ∀ value, denotes (toTree value) value) (values : List α) :
    (array (values.map toTree)).DenotesList denotes values := by
  refine ⟨_, rfl, ?_⟩
  rw [List.forall₂_map_left_iff]
  exact List.forall₂_same.mpr fun value _ => denoted value

/-- An object denotes a record when its members are what the fields of the record have. -/
theorem denotesRecord_ofFields {ρ : Type} {fields : List (RecordField ρ)}
    {members : List (String × Tree)} {record : ρ} (distinct : (fields.map RecordField.name).Nodup)
    (given : List.Forall₂ (fun field member => field.name = member.1 ∧ field.Given member.2 record)
      fields members) : (ofFields members).DenotesRecord fields record := by
  have named : members.map (·.1) = fields.map RecordField.name := by
    induction given with
    | nil => rfl
    | cons first _ ih =>
      rw [List.map_cons, List.map_cons, ih (List.nodup_cons.mp distinct).2, first.1]
  refine ⟨_, .object fun name _ => ?_, ?_⟩
  · rw [named]
    exact List.nodup_iff_count_le_one.mp distinct name
  · clear named
    induction given with
    | nil => nofun
    | @cons field member fields members first _ ih =>
      obtain ⟨fresh, distinct⟩ := List.nodup_cons.mp distinct
      obtain ⟨name, tree⟩ := member
      obtain ⟨same, stands⟩ := first
      refine List.forall_mem_cons.mpr ⟨?_, fun other listed => ?_⟩
      · rw [RecordField.Holds, same, List.lookup_cons_self]
        exact stands
      · have different : other.name ≠ name := fun again =>
          fresh (same ▸ again ▸ List.mem_map_of_mem listed)
        have later := ih distinct other listed
        rw [RecordField.Holds] at later ⊢
        rw [List.lookup_cons, beq_false_of_ne different]
        exact later

end Json.Tree

/-! ### Records -/

namespace ArgumentEntry

/-- The tree of an argument denotes it. -/
theorem denotesRecord_toTree (entry : ArgumentEntry) :
    entry.toTree.DenotesRecord ArgumentEntry.fields entry :=
  Tree.denotesRecord_ofFields (by decide) <| .cons ⟨rfl, rfl⟩ <| .cons ⟨rfl, rfl⟩ .nil

/-- The tree of an argument is spelled. -/
theorem isSpelled_toTree (entry : ArgumentEntry) : entry.toTree.IsSpelled := by
  refine isSpelled_ofFields ?_
  simp only [List.forall_mem_cons, List.not_mem_nil, false_imp_iff, implies_true, and_true]
  exact ⟨isSpelled_ofString entry.name, isSpelled_ofString entry.type⟩

end ArgumentEntry

namespace CallEntry

/-- The tree of a call denotes it. -/
theorem denotesRecord_toTree (entry : CallEntry) :
    entry.toTree.DenotesRecord CallEntry.fields entry :=
  Tree.denotesRecord_ofFields (by decide) <| .cons ⟨rfl, rfl⟩ <|
    .cons ⟨rfl, Tree.denotesNatural_ofNat entry.index.toNat_lt⟩ <|
    .cons ⟨rfl, Tree.denotesList_map ArgumentEntry.denotesRecord_toTree entry.args⟩ .nil

/-- The tree of a call is spelled. -/
theorem isSpelled_toTree (entry : CallEntry) : entry.toTree.IsSpelled := by
  refine isSpelled_ofFields ?_
  simp only [List.forall_mem_cons, List.not_mem_nil, false_imp_iff, implies_true, and_true]
  exact ⟨isSpelled_ofString entry.name, isSpelled_ofNat entry.index.toNat,
    isSpelled_map ArgumentEntry.isSpelled_toTree entry.args⟩

end CallEntry

namespace StorageEntry

/-- The tree of a storage item denotes it. -/
theorem denotesRecord_toTree (entry : StorageEntry) :
    entry.toTree.DenotesRecord StorageEntry.fields entry :=
  Tree.denotesRecord_ofFields (by decide) <| .cons ⟨rfl, rfl⟩ <|
    .cons ⟨rfl, .inl rfl⟩ <|
    .cons ⟨rfl, Tree.denotesList_map (fun _ => .inl rfl) entry.hashers⟩ <|
    .cons ⟨rfl, Tree.denotesList_map Tree.denotesString_ofString entry.keyTypes⟩ <|
    .cons ⟨rfl, rfl⟩ <|
    .cons ⟨rfl, _, rfl, Hex.spelledBy_encode0x entry.default⟩ .nil

/-- The tree of a storage item is spelled. -/
theorem isSpelled_toTree (entry : StorageEntry) : entry.toTree.IsSpelled := by
  refine isSpelled_ofFields ?_
  simp only [List.forall_mem_cons, List.not_mem_nil, false_imp_iff, implies_true, and_true]
  exact ⟨isSpelled_ofString entry.name, isSpelled_ofString entry.modifier.name,
    isSpelled_map (fun hasher : Hasher => isSpelled_ofString hasher.name) entry.hashers,
    isSpelled_map isSpelled_ofString entry.keyTypes, isSpelled_ofString entry.valueType,
    isSpelled_ofString (Hex.encode0x entry.default)⟩

end StorageEntry

namespace PalletEntry

/-- The tree of a pallet denotes it. -/
theorem denotesRecord_toTree (entry : PalletEntry) :
    entry.toTree.DenotesRecord PalletEntry.fields entry :=
  Tree.denotesRecord_ofFields (by decide) <| .cons ⟨rfl, rfl⟩ <|
    .cons ⟨rfl, Tree.denotesNatural_ofNat entry.index.toNat_lt⟩ <|
    .cons ⟨rfl, Tree.denotesList_map CallEntry.denotesRecord_toTree entry.calls⟩ <|
    .cons ⟨rfl, Tree.denotesList_map StorageEntry.denotesRecord_toTree entry.storage⟩ .nil

/-- The tree of a pallet is spelled. -/
theorem isSpelled_toTree (entry : PalletEntry) : entry.toTree.IsSpelled := by
  refine isSpelled_ofFields ?_
  simp only [List.forall_mem_cons, List.not_mem_nil, false_imp_iff, implies_true, and_true]
  exact ⟨isSpelled_ofString entry.name, isSpelled_ofNat entry.index.toNat,
    isSpelled_map CallEntry.isSpelled_toTree entry.calls,
    isSpelled_map StorageEntry.isSpelled_toTree entry.storage⟩

end PalletEntry

namespace Registry

/-- The tree of a registry denotes it. -/
theorem denotesRecord_toTree (registry : Registry) :
    registry.toTree.DenotesRecord Registry.fields registry :=
  Tree.denotesRecord_ofFields (by decide) <|
    .cons ⟨rfl, Tree.denotesNatural_ofNat registry.specVersion.toNat_lt⟩ <|
    .cons ⟨rfl, Tree.denotesList_map PalletEntry.denotesRecord_toTree registry.pallets⟩ .nil

/-- The tree of a registry is spelled. -/
theorem isSpelled_toTree (registry : Registry) : registry.toTree.IsSpelled := by
  refine isSpelled_ofFields ?_
  simp only [List.forall_mem_cons, List.not_mem_nil, false_imp_iff, implies_true, and_true]
  exact ⟨isSpelled_ofNat registry.specVersion.toNat,
    isSpelled_map PalletEntry.isSpelled_toTree registry.pallets⟩

/-- The text of a registry is parsed as the registry. -/
theorem parse_text (registry : Registry) : Registry.parse registry.text = .ok registry :=
  (parse_eq_ok_iff registry.isSpelled_toTree.isValueOf registry).mpr registry.denotesRecord_toTree

end Registry

/-- A registry that is written is read back when it is consistent. Otherwise its text is refused
for the very fault of the registry. -/
theorem registry_text_reloads (registry : Registry) :
    Registry.load registry.text =
      match registry.validate with
      | .ok () => .ok registry
      | .error fault => .error (.registry fault) := by
  rw [Registry.load, registry.parse_text]
  cases valid : registry.validate <;> simp only [valid]

end EnclaveChain
