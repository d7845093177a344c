import EnclaveChain.Proofs.Json.Denotation
import EnclaveChain.Proofs.Json.Reading
import EnclaveChain.Proofs.Json.Writing
import EnclaveChain.Registry.Lookup

/-!
# Which texts are registries

A text is loaded as a registry exactly when it is JSON, its value denotes the registry and the
registry is consistent. What a tree denotes is said by one table of fields for each kind of record,
and the readers are faithful to their tables because the shapes that they read follow them, field
by field. Nothing here looks at how a text or a tree is read.
-/
namespace EnclaveChain

open Json

/-! ### Tables -/

/-- Both modifiers. -/
def Modifier.all : List Modifier := [optional, .default]

/-- The fields of an argument. -/
def ArgumentEntry.fields : List (RecordField ArgumentEntry) :=
  [.required "name" Tree.DenotesString (·.name), .required "ty" Tree.DenotesString (·.type)]

/-- The fields of a call. -/
def CallEntry.fields : List (RecordField CallEntry) :=
  [.required "name" Tree.DenotesString (·.name),
    .required "index" Tree.DenotesByte (·.index),
    .orEmpty "args" (Tree.DenotesList (Tree.DenotesRecord ArgumentEntry.fields)) (·.args)]

/-- The fields of a storage item. -/
def StorageEntry.fields : List (RecordField StorageEntry) :=
  [.required "name" Tree.DenotesString (·.name),
    .required "modifier" (Tree.DenotesName Modifier.name) (·.modifier),
    .orEmpty "hashers" (Tree.DenotesList (Tree.DenotesName Hasher.name)) (·.hashers),
    .orEmpty "key_ty" (Tree.DenotesList Tree.DenotesString) (·.keyTypes),
    .required "value_ty" Tree.DenotesString (·.valueType),
    .orEmpty "default" Tree.DenotesBytes (·.default)]

/-- The fields of a pallet. -/
def PalletEntry.fields : List (RecordField PalletEntry) :=
  [.required "name" Tree.DenotesString (·.name),
    .required "index" Tree.DenotesByte (·.index),
    .orEmpty "calls" (Tree.DenotesList (Tree.DenotesRecord CallEntry.fields)) (·.calls),
    .orEmpty "storage" (Tree.DenotesList (Tree.DenotesRecord StorageEntry.fields)) (·.storage)]

/-- The fields of a registry. -/
def Registry.fields : List (RecordField Registry) :=
  [.required "spec_version" (Tree.DenotesNatural 32) (·.specVersion.toNat),
    .required "pallets" (Tree.DenotesList (Tree.DenotesRecord PalletEntry.fields)) (·.pallets)]

/-! ### Readers -/

/-- Modifiers are read faithfully. -/
theorem Modifier.faithful_read : Faithful Modifier.read (Tree.DenotesName Modifier.name) :=
  faithful_readVariant Modifier.all (by decide) (by intro modifier; cases modifier <;> decide)

/-- Hashers are read faithfully. -/
theorem Hasher.faithful_read : Faithful Hasher.read (Tree.DenotesName Hasher.name) :=
  faithful_readVariant Hasher.all (by decide) (by intro hasher; cases hasher <;> decide)

/-- Arguments are read faithfully. -/
theorem ArgumentEntry.faithful_read :
    Faithful ArgumentEntry.read (Tree.DenotesRecord ArgumentEntry.fields) :=
  faithful_record (fun entry : ArgumentEntry => (entry.name, entry.type, ()))
    (.required faithful_readString <| .required faithful_readString .done) (by decide) _
    (fun _ => rfl) (fun _ _ _ => rfl)

/-- Calls are read faithfully. -/
theorem CallEntry.faithful_read : Faithful CallEntry.read (Tree.DenotesRecord CallEntry.fields) :=
  faithful_record (fun entry : CallEntry => (entry.name, entry.index, entry.args, ()))
    (.required faithful_readString <| .required faithful_readByte <|
      .orEmpty (faithful_readList ArgumentEntry.faithful_read) .done) (by decide) _
    (fun _ => rfl) (fun _ _ _ => rfl)

/-- Storage items are read faithfully. -/
theorem StorageEntry.faithful_read :
    Faithful StorageEntry.read (Tree.DenotesRecord StorageEntry.fields) :=
  faithful_record
    (fun entry : StorageEntry => (entry.name, entry.modifier, entry.hashers, entry.keyTypes,
      entry.valueType, entry.default, ()))
    (.required faithful_readString <| .required Modifier.faithful_read <|
      .orEmpty (faithful_readList Hasher.faithful_read) <|
      .orEmpty (faithful_readList faithful_readString) <| .required faithful_readString <|
      .orEmpty faithful_readDefault .done) (by decide) _
    (fun _ => rfl) (fun _ _ _ => rfl)

/-- Pallets are read faithfully. -/
theorem PalletEntry.faithful_read :
    Faithful PalletEntry.read (Tree.DenotesRecord PalletEntry.fields) :=
  faithful_record
    (fun entry : PalletEntry => (entry.name, entry.index, entry.calls, entry.storage, ()))
    (.required faithful_readString <| .required faithful_readByte <|
      .orEmpty (faithful_readList CallEntry.faithful_read) <|
      .orEmpty (faithful_readList StorageEntry.faithful_read) .done) (by decide) _
    (fun _ => rfl) (fun _ _ _ => rfl)

/-- Registries are read faithfully. -/
theorem Registry.faithful_read : Faithful Registry.read (Tree.DenotesRecord Registry.fields) := by
  refine faithful_record
    (fun registry : Registry => (registry.specVersion.toNat, registry.pallets, ()))
    (.required (faithful_readNatural (by decide)) <|
      .required (faithful_readList PalletEntry.faithful_read) .done) (by decide) _
    (fun registry => congrArg (Registry.mk · registry.pallets) UInt32.ofNat_toNat) ?_
  rintro given ⟨specVersion, pallets, ⟨⟩⟩ ⟨read, -⟩
  simp only [Option.map_none, Option.or_none] at read
  obtain ⟨tree, -, read⟩ := Option.map_eq_some_iff.mp read
  have bound : specVersion < 2 ^ 32 := lt_of_readNatural read
  exact congrArg (·, pallets, ()) (UInt32.toNat_ofNat_of_lt' bound)

/-! ### Texts -/

/-- A text is parsed as a registry when its value denotes the registry. -/
theorem Registry.parse_eq_ok_iff {text : String} {tree : Tree} (valued : tree.IsValueOf text)
    (registry : Registry) :
    Registry.parse text = .ok registry ↔ tree.DenotesRecord Registry.fields registry := by
  rw [Registry.parse, valued.ofText, ← Registry.faithful_read tree valued.isWhole]
  unfold Document.read
  cases Registry.read tree <;> simp

/-- A text is loaded as a registry when it is parsed as one that is consistent. -/
theorem Registry.load_eq_ok_iff (text : String) (registry : Registry) :
    Registry.load text = .ok registry ↔
      Registry.parse text = .ok registry ∧ registry.validate = .ok () := by
  rw [Registry.load]
  cases Registry.parse text with
  | error fault => simp
  | ok other =>
    simp only [Except.ok.injEq]
    constructor
    · intro loaded
      cases valid : other.validate with
      | error fault => simp [valid] at loaded
      | ok =>
        have same : other = registry := by simpa [valid] using loaded
        exact ⟨same, same ▸ valid⟩
    · rintro ⟨rfl, valid⟩
      rw [valid]

/-- A JSON text is accepted as a registry exactly when its value denotes the registry and the
registry is consistent. Null stands for nothing that any of the records has. -/
theorem registry_accepted_iff_denoted {text : String} {tree : Tree} (valued : tree.IsValueOf text)
    (registry : Registry) :
    (Registry.load text = .ok registry ↔
      tree.DenotesRecord Registry.fields registry ∧ registry.validate = .ok ()) ∧
    RefuseNull Registry.fields ∧ RefuseNull PalletEntry.fields ∧ RefuseNull CallEntry.fields ∧
    RefuseNull ArgumentEntry.fields ∧ RefuseNull StorageEntry.fields := by
  rw [← Registry.parse_eq_ok_iff valued, Registry.load_eq_ok_iff]
  refine ⟨Iff.rfl, ?_, ?_, ?_, ?_, ?_⟩
  · simp [RefuseNull, Registry.fields, RecordField.required]
  · simp [RefuseNull, PalletEntry.fields, RecordField.required, RecordField.orEmpty]
  · simp [RefuseNull, CallEntry.fields, RecordField.required, RecordField.orEmpty]
  · simp [RefuseNull, ArgumentEntry.fields, RecordField.required]
  · simp [RefuseNull, StorageEntry.fields, RecordField.required, RecordField.orEmpty]

/-- The text of a registry with a pallet is JSON, and it is accepted. The registry, the call and
the item are given as arrays; the pallet, which has an unknown field, and the argument of the call
are given as objects, their fields in another order. -/
theorem registry_accepted_iff_denoted_bank :
    let argument := Tree.ofFields [("ty", .ofString "u64"), ("name", .ofString "amount")]
    let call := Tree.array [.ofString "pay", .ofNat 0, .array [argument]]
    let item := Tree.array [.ofString "Rate", .ofFields [("Default", .null)],
      .array [.ofString "Identity"], .array [.ofString "u8"], .ofString "u16", .ofString "0A00"]
    let pallet := Tree.ofFields [("index", .ofNat 5), ("storage", .array [item]), ("note", .null),
      ("name", .ofString "Bank"), ("calls", .array [call])]
    let tree := Tree.array [.ofNat 7, .array [pallet]]
    let text :=
      "[7,[\x7b\"index\":5,\"storage\":[[\"Rate\",\x7b\"Default\":null\x7d,[\"Identity\"]," ++
      "[\"u8\"],\"u16\",\"0A00\"]],\"note\":null,\"name\":\"Bank\"," ++
      "\"calls\":[[\"pay\",0,[\x7b\"ty\":\"u64\",\"name\":\"amount\"\x7d]]]\x7d]]"
    tree.IsValueOf text ∧
      Registry.load text = .ok ⟨7, [⟨"Bank", 5, [⟨"pay", 0, [⟨"amount", "u64"⟩]⟩],
        [⟨"Rate", .default, [.identity], ["u8"], "u16", [10, 0]⟩]⟩]⟩ := by
  intro argument call item pallet tree text
  -- What the writer makes of the tree is the text.
  have argumentSpelled : argument.IsSpelled := isSpelled_ofFields (by simp)
  have callSpelled : call.IsSpelled :=
    isSpelled_array (by simp [isSpelled_array, argumentSpelled])
  have itemSpelled : item.IsSpelled :=
    isSpelled_array (by simp [isSpelled_array, isSpelled_ofFields])
  have palletSpelled : pallet.IsSpelled :=
    isSpelled_ofFields (by simp [isSpelled_array, itemSpelled, callSpelled])
  have spelled : tree.IsSpelled := isSpelled_array (by simp [isSpelled_array, palletSpelled])
  have written : tree.text = text := by
    rw [← String.toList_inj, Tree.text, String.toList_ofList]
    decide +kernel
  have valued : tree.IsValueOf text := written ▸ spelled.isValueOf
  refine ⟨valued, (registry_accepted_iff_denoted valued _).1.mpr ⟨?_, rfl⟩⟩
  -- Each tree denotes its record by what it gives for each field.
  have argumentDenotes : argument.DenotesRecord ArgumentEntry.fields ⟨"amount", "u64"⟩ := by
    refine ⟨_, .object (by decide), ?_⟩
    rw [ArgumentEntry.fields, List.forall_mem_cons, List.forall_mem_singleton]
    exact ⟨rfl, rfl⟩
  have callDenotes : call.DenotesRecord CallEntry.fields ⟨"pay", 0, [⟨"amount", "u64"⟩]⟩ := by
    refine ⟨_, .array (by decide), ?_⟩
    rw [CallEntry.fields, List.forall_mem_cons, List.forall_mem_cons, List.forall_mem_singleton]
    exact ⟨rfl, ⟨by decide, [0], rfl, rfl⟩, _, rfl, .cons argumentDenotes .nil⟩
  have itemDenotes : item.DenotesRecord StorageEntry.fields
      ⟨"Rate", .default, [.identity], ["u8"], "u16", [10, 0]⟩ := by
    refine ⟨_, .array (by decide), ?_⟩
    simp only [StorageEntry.fields, List.forall_mem_cons, List.not_mem_nil, false_imp_iff,
      implies_true, and_true]
    exact ⟨rfl, .inr rfl, ⟨_, rfl, .cons (.inl rfl) .nil⟩, ⟨_, rfl, .cons rfl .nil⟩, rfl, "0A00",
      rfl, (Hex.decodeText_eq_ok_iff _ _).mp rfl⟩
  have palletDenotes : pallet.DenotesRecord PalletEntry.fields
      ⟨"Bank", 5, [⟨"pay", 0, [⟨"amount", "u64"⟩]⟩],
        [⟨"Rate", .default, [.identity], ["u8"], "u16", [10, 0]⟩]⟩ := by
    refine ⟨_, .object (by decide), ?_⟩
    simp only [PalletEntry.fields, List.forall_mem_cons, List.not_mem_nil, false_imp_iff,
      implies_true, and_true]
    exact ⟨rfl, ⟨by decide, [5], rfl, rfl⟩, ⟨_, rfl, .cons callDenotes .nil⟩, _, rfl,
      .cons itemDenotes .nil⟩
  refine ⟨_, .array (by decide), ?_⟩
  rw [Registry.fields, List.forall_mem_cons, List.forall_mem_singleton]
  exact ⟨⟨by decide, [7], rfl, rfl⟩, _, rfl, .cons palletDenotes .nil⟩

end EnclaveChain
