import EnclaveChain.Error
import EnclaveChain.Proofs.Registry.Consistency
import EnclaveChain.Registry.Builtin

/-!
# The first fault of a registry

A registry that is not consistent is blamed for one element. It is the first that offends when the
registry is read from the front, pallet by pallet and in each pallet its name, its index, its calls
and its items: up to this element the registry is consistent, and with it a rule is broken. The
checks of calls, of items and of pallets go through their lists in the same way, so what holds of
all of them is said once, of a check in order.
-/
namespace EnclaveChain

universe u v

/-! ### Checks in order -/

/-- A check that goes through entries from the front, each one after those before it. -/
structure ChecksInOrder {α : Type u} {ε : Type v} (check : List α → List α → Except ε Unit) :
    Prop where
  /-- No entries are accepted. -/
  nil : ∀ before, check before [] = .ok ()
  /-- The others are checked when the first one is accepted. -/
  cons : ∀ before entry entries, check before (entry :: entries) =
    match check before [entry] with
    | .error fault => .error fault
    | .ok () => check (before ++ [entry]) entries

namespace ChecksInOrder

variable {α : Type u} {ε : Type v} {check : List α → List α → Except ε Unit}
  (inOrder : ChecksInOrder check) {before : List α}

include inOrder

/-- Entries are accepted when the earlier ones are, and then the later ones after them. -/
theorem append_eq_ok_iff {earlier later : List α} :
    check before (earlier ++ later) = .ok () ↔
      check before earlier = .ok () ∧ check (before ++ earlier) later = .ok () := by
  induction earlier generalizing before with
  | nil => simp [inOrder.nil]
  | cons entry earlier ih =>
    rw [List.cons_append, inOrder.cons before entry (earlier ++ later),
      inOrder.cons before entry earlier]
    cases check before [entry] with
    | error fault => simp
    | ok =>
      simp only
      rw [ih, List.append_assoc, List.singleton_append]

/-- Entries are refused for the first one that is refused after those before it. -/
theorem eq_error_iff {entries : List α} {fault : ε} :
    check before entries = .error fault ↔
      ∃ earlier entry later, entries = earlier ++ entry :: later ∧
        check before earlier = .ok () ∧ check (before ++ earlier) [entry] = .error fault := by
  induction entries generalizing before with
  | nil => simp [inOrder.nil]
  | cons first entries ih =>
    rw [inOrder.cons]
    cases taken : check before [first] with
    | error other =>
      constructor
      · rintro ⟨⟩
        exact ⟨[], first, entries, rfl, inOrder.nil before, by rw [List.append_nil, taken]⟩
      · rintro ⟨earlier, entry, later, split, accepted, refused⟩
        cases earlier with
        | nil =>
          obtain ⟨rfl, -⟩ := List.cons.inj split
          rwa [List.append_nil, taken] at refused
        | cons head earlier =>
          obtain ⟨rfl, -⟩ := List.cons.inj split
          rw [inOrder.cons, taken] at accepted
          cases accepted
    | ok =>
      simp only
      rw [ih]
      constructor
      · rintro ⟨earlier, entry, later, rfl, accepted, refused⟩
        refine ⟨first :: earlier, entry, later, rfl, ?_, ?_⟩
        · rw [inOrder.cons, taken]
          exact accepted
        · rwa [List.append_assoc, List.singleton_append] at refused
      · rintro ⟨earlier, entry, later, split, accepted, refused⟩
        cases earlier with
        | nil =>
          obtain ⟨rfl, -⟩ := List.cons.inj split
          rw [List.append_nil, taken] at refused
          cases refused
        | cons head earlier =>
          obtain ⟨rfl, rfl⟩ := List.cons.inj split
          rw [inOrder.cons, taken] at accepted
          refine ⟨earlier, entry, later, rfl, accepted, ?_⟩
          rwa [List.append_assoc, List.singleton_append]

end ChecksInOrder

/-! ### Elements that offend -/

/-- The first rule that an item breaks after other items of its pallet. -/
inductive StorageEntry.Breaks (pallet : String) (before : List StorageEntry)
    (entry : StorageEntry) : RegistryFault → Prop where
  /-- The name is taken. -/
  | name (known : entry.name ∈ before.map (·.name)) :
    Breaks pallet before entry (.item pallet entry.name)
  /-- Named key types are not as many as the hashers. -/
  | keyCount (new : entry.name ∉ before.map (·.name)) (named : entry.keyTypes ≠ [])
    (differ : entry.keyTypes.length ≠ entry.hashers.length) :
    Breaks pallet before entry
      (.keyCount pallet entry.name entry.hashers.length entry.keyTypes.length)
  /-- A default has no bytes. -/
  | defaultBytes (new : entry.name ∉ before.map (·.name))
    (counted : entry.keyTypes ≠ [] → entry.keyTypes.length = entry.hashers.length)
    (kind : entry.modifier = .default) (missing : entry.default = []) :
    Breaks pallet before entry (.noDefaultBytes pallet entry.name)

namespace Registry

/-- A registry that ends after some pallets. -/
def cut (registry : Registry) (pallets : List PalletEntry) : Registry :=
  { registry with pallets := pallets }

/-- The first element that offends, with all before it consistent. -/
inductive FirstFault (registry : Registry) : RegistryFault → Prop where
  /-- A pallet whose name is taken. -/
  | palletName {before after : List PalletEntry} {pallet : PalletEntry}
    (split : registry.pallets = before ++ pallet :: after)
    (consistent : (registry.cut before).IsConsistent)
    (known : pallet.name ∈ before.map (·.name)) :
    FirstFault registry (.palletName pallet.name)
  /-- A pallet whose index is taken, but not its name. -/
  | palletIndex {before after : List PalletEntry} {pallet : PalletEntry}
    (split : registry.pallets = before ++ pallet :: after)
    (consistent : (registry.cut before).IsConsistent)
    (new : pallet.name ∉ before.map (·.name)) (known : pallet.index ∈ before.map (·.index)) :
    FirstFault registry (.palletIndex pallet.index)
  /-- A call whose name or index is taken, in a pallet that is good up to it. -/
  | call {before after : List PalletEntry} {pallet : PalletEntry} {earlier later : List CallEntry}
    {call : CallEntry} (split : registry.pallets = before ++ pallet :: after)
    (listed : pallet.calls = earlier ++ call :: later)
    (consistent : (registry.cut
      (before ++ [{ pallet with calls := earlier, storage := [] }])).IsConsistent)
    (known : call.name ∈ earlier.map (·.name) ∨ call.index ∈ earlier.map (·.index)) :
    FirstFault registry (.call pallet.name call.name call.index)
  /-- An item that breaks a rule, in a pallet that is good up to it. -/
  | item {before after : List PalletEntry} {pallet : PalletEntry}
    {earlier later : List StorageEntry} {entry : StorageEntry} {fault : RegistryFault}
    (split : registry.pallets = before ++ pallet :: after)
    (listed : pallet.storage = earlier ++ entry :: later)
    (consistent : (registry.cut (before ++ [{ pallet with storage := earlier }])).IsConsistent)
    (breaks : entry.Breaks pallet.name earlier fault) : FirstFault registry fault

end Registry

/-! ### Each check by itself -/

namespace PalletEntry

variable {pallet : String} {fault : RegistryFault}

/-- Calls are checked in order. -/
theorem checkCalls_inOrder (pallet : String) : ChecksInOrder (checkCalls pallet) := by
  constructor
  · intro before
    rw [checkCalls]
  · intro before call calls
    rw [checkCalls, checkCalls, checkCalls]
    split <;> rfl

/-- A call is refused when its name or its index is taken. -/
theorem checkCalls_singleton_eq_error_iff {before : List CallEntry} {call : CallEntry} :
    checkCalls pallet before [call] = .error fault ↔
      (call.name ∈ before.map (·.name) ∨ call.index ∈ before.map (·.index)) ∧
        fault = .call pallet call.name call.index := by
  rw [checkCalls, checkCalls]
  by_cases known : call.name ∈ before.map (·.name) ∨ call.index ∈ before.map (·.index)
  · rw [if_pos known, Except.error.injEq, and_iff_right known, eq_comm]
  · rw [if_neg known]
    simp only [reduceCtorEq, known, false_and]

/-- Items are checked in order. -/
theorem checkItems_inOrder (pallet : String) : ChecksInOrder (checkItems pallet) := by
  constructor
  · intro before
    rw [checkItems]
  · intro before entry entries
    rw [checkItems, checkItems, checkItems]
    split
    · rfl
    split
    · rfl
    split <;> rfl

/-- An item is refused for the first rule that it breaks. -/
theorem checkItems_singleton_eq_error_iff {before : List StorageEntry} {entry : StorageEntry} :
    checkItems pallet before [entry] = .error fault ↔ entry.Breaks pallet before fault := by
  rw [checkItems, checkItems]
  by_cases known : entry.name ∈ before.map (·.name)
  · rw [if_pos known]
    constructor
    · rintro ⟨⟩
      exact .name known
    · rintro (⟨-⟩ | ⟨new⟩ | ⟨new⟩)
      · rfl
      · exact absurd known new
      · exact absurd known new
  rw [if_neg known]
  by_cases counted : entry.keyTypes ≠ [] ∧ entry.keyTypes.length ≠ entry.hashers.length
  · rw [if_pos counted]
    constructor
    · rintro ⟨⟩
      exact .keyCount known counted.1 counted.2
    · rintro (⟨taken⟩ | ⟨-, -, -⟩ | ⟨-, same⟩)
      · exact absurd taken known
      · rfl
      · exact absurd (same counted.1) counted.2
  rw [if_neg counted]
  by_cases missing : entry.modifier = .default ∧ entry.default = []
  · rw [if_pos missing]
    have same : entry.keyTypes ≠ [] → entry.keyTypes.length = entry.hashers.length :=
      fun named => not_not.mp fun differ => counted ⟨named, differ⟩
    constructor
    · rintro ⟨⟩
      exact .defaultBytes known same missing.1 missing.2
    · rintro (⟨taken⟩ | ⟨-, named, differ⟩ | ⟨-, -, -, -⟩)
      · exact absurd taken known
      · exact absurd ⟨named, differ⟩ counted
      · rfl
  · rw [if_neg missing]
    constructor
    · rintro ⟨⟩
    · rintro (⟨taken⟩ | ⟨-, named, differ⟩ | ⟨-, -, kind, none⟩)
      · exact absurd taken known
      · exact absurd ⟨named, differ⟩ counted
      · exact absurd ⟨kind, none⟩ missing

end PalletEntry

namespace Registry

variable {registry : Registry} {before : List PalletEntry} {pallet : PalletEntry}
  {fault : RegistryFault}

/-- Pallets are checked in order. -/
theorem checkPallets_inOrder : ChecksInOrder checkPallets := by
  constructor
  · intro before
    rw [checkPallets]
  · intro before pallet pallets
    rw [checkPallets, checkPallets]
    split
    · rfl
    split
    · rfl
    cases PalletEntry.checkCalls pallet.name [] pallet.calls with
    | error fault => rfl
    | ok =>
      cases PalletEntry.checkItems pallet.name [] pallet.storage with
      | error fault => rfl
      | ok => simp only [checkPallets]

/-- A pallet is accepted when its name and index are new and its calls and items are accepted. -/
theorem checkPallets_singleton_eq_ok_iff :
    checkPallets before [pallet] = .ok () ↔
      pallet.name ∉ before.map (·.name) ∧ pallet.index ∉ before.map (·.index) ∧
        PalletEntry.checkCalls pallet.name [] pallet.calls = .ok () ∧
        PalletEntry.checkItems pallet.name [] pallet.storage = .ok () := by
  rw [checkPallets, checkPallets]
  by_cases named : pallet.name ∈ before.map (·.name)
  · simp [named]
  by_cases numbered : pallet.index ∈ before.map (·.index)
  · simp [named, numbered]
  rw [if_neg named, if_neg numbered]
  cases PalletEntry.checkCalls pallet.name [] pallet.calls with
  | error fault => simp
  | ok =>
    cases PalletEntry.checkItems pallet.name [] pallet.storage with
    | error fault => simp
    | ok => simp [named, numbered]

/-- A pallet is refused for its name, its index, its calls or its items, the first of these that
is not accepted. -/
theorem checkPallets_singleton_eq_error_iff :
    checkPallets before [pallet] = .error fault ↔
      (pallet.name ∈ before.map (·.name) ∧ fault = .palletName pallet.name) ∨
      pallet.name ∉ before.map (·.name) ∧
        ((pallet.index ∈ before.map (·.index) ∧ fault = .palletIndex pallet.index) ∨
        pallet.index ∉ before.map (·.index) ∧
          (PalletEntry.checkCalls pallet.name [] pallet.calls = .error fault ∨
          PalletEntry.checkCalls pallet.name [] pallet.calls = .ok () ∧
            PalletEntry.checkItems pallet.name [] pallet.storage = .error fault)) := by
  rw [checkPallets, checkPallets]
  by_cases named : pallet.name ∈ before.map (·.name)
  · simp [named, eq_comm]
  by_cases numbered : pallet.index ∈ before.map (·.index)
  · simp [named, numbered, eq_comm]
  rw [if_neg named, if_neg numbered]
  cases PalletEntry.checkCalls pallet.name [] pallet.calls with
  | error fault => simp [named, numbered]
  | ok =>
    cases PalletEntry.checkItems pallet.name [] pallet.storage with
    | error fault => simp [named, numbered]
    | ok => simp [named, numbered]

/-- A registry that ends after some pallets is consistent when they are accepted. -/
theorem isConsistent_cut_iff : (registry.cut before).IsConsistent ↔
    checkPallets [] before = .ok () :=
  validate_eq_ok_iff.symm

/-- A registry that ends after a pallet is consistent when the pallets before it are accepted and
then the pallet. -/
theorem isConsistent_cut_append_iff : (registry.cut (before ++ [pallet])).IsConsistent ↔
    checkPallets [] before = .ok () ∧ checkPallets before [pallet] = .ok () := by
  rw [isConsistent_cut_iff, checkPallets_inOrder.append_eq_ok_iff, List.nil_append]

/-- A registry is refused for the first element that offends. -/
theorem validate_eq_error_iff : registry.validate = .error fault ↔ registry.FirstFault fault := by
  rw [validate, checkPallets_inOrder.eq_error_iff]
  constructor
  · rintro ⟨before, pallet, after, split, accepted, refused⟩
    have consistent : (registry.cut before).IsConsistent := isConsistent_cut_iff.mpr accepted
    rw [List.nil_append] at refused
    rcases checkPallets_singleton_eq_error_iff.mp refused with
      ⟨known, rfl⟩ | ⟨newName, ⟨known, rfl⟩ | ⟨newIndex, refused | ⟨called, refused⟩⟩⟩
    · exact .palletName split consistent known
    · exact .palletIndex split consistent newName known
    · obtain ⟨earlier, call, later, listed, called, refused⟩ :=
        (PalletEntry.checkCalls_inOrder pallet.name).eq_error_iff.mp refused
      obtain ⟨known, rfl⟩ := PalletEntry.checkCalls_singleton_eq_error_iff.mp refused
      refine .call split listed (isConsistent_cut_append_iff.mpr ⟨accepted, ?_⟩) known
      exact checkPallets_singleton_eq_ok_iff.mpr ⟨newName, newIndex, called, rfl⟩
    · obtain ⟨earlier, entry, later, listed, stored, refused⟩ :=
        (PalletEntry.checkItems_inOrder pallet.name).eq_error_iff.mp refused
      refine .item split listed (isConsistent_cut_append_iff.mpr ⟨accepted, ?_⟩)
        (PalletEntry.checkItems_singleton_eq_error_iff.mp refused)
      exact checkPallets_singleton_eq_ok_iff.mpr ⟨newName, newIndex, called, stored⟩
  · intro first
    cases first with
    | palletName split consistent known =>
      exact ⟨_, _, _, split, isConsistent_cut_iff.mp consistent,
        checkPallets_singleton_eq_error_iff.mpr (.inl ⟨known, rfl⟩)⟩
    | palletIndex split consistent new known =>
      exact ⟨_, _, _, split, isConsistent_cut_iff.mp consistent,
        checkPallets_singleton_eq_error_iff.mpr (.inr ⟨new, .inl ⟨known, rfl⟩⟩)⟩
    | call split listed consistent known =>
      obtain ⟨accepted, good⟩ := isConsistent_cut_append_iff.mp consistent
      obtain ⟨newName, newIndex, called, -⟩ := checkPallets_singleton_eq_ok_iff.mp good
      have refused := (PalletEntry.checkCalls_inOrder _).eq_error_iff.mpr ⟨_, _, _, listed, called,
        PalletEntry.checkCalls_singleton_eq_error_iff.mpr ⟨known, rfl⟩⟩
      exact ⟨_, _, _, split, accepted,
        checkPallets_singleton_eq_error_iff.mpr (.inr ⟨newName, .inr ⟨newIndex, .inl refused⟩⟩)⟩
    | item split listed consistent breaks =>
      obtain ⟨accepted, good⟩ := isConsistent_cut_append_iff.mp consistent
      obtain ⟨newName, newIndex, called, stored⟩ := checkPallets_singleton_eq_ok_iff.mp good
      have refused := (PalletEntry.checkItems_inOrder _).eq_error_iff.mpr ⟨_, _, _, listed, stored,
        PalletEntry.checkItems_singleton_eq_error_iff.mpr breaks⟩
      exact ⟨_, _, _, split, accepted, checkPallets_singleton_eq_error_iff.mpr
        (.inr ⟨newName, .inr ⟨newIndex, .inr ⟨called, refused⟩⟩⟩)⟩

end Registry

/-! ### Messages -/

/-- A part stands somewhere in a text. -/
def Mentions (text part : String) : Prop := ∃ front back, text = front ++ part ++ back

/-- Texts that are joined are mentioned by the whole. -/
theorem mentions_join {part : String} {parts : List String} (listed : part ∈ parts) :
    Mentions (String.join parts) part := by
  obtain ⟨front, back, rfl⟩ := List.append_of_mem listed
  refine ⟨String.join front, String.join back, ?_⟩
  rw [String.join_append, String.join_cons, String.append_assoc]

namespace RegistryFault

/-- The names and numbers that tell where a fault is. -/
def marks : RegistryFault → List String
  | palletName name => [name]
  | palletIndex index => [toString index.toNat]
  | call pallet name index => [pallet, name, toString index.toNat]
  | item pallet name | keyCount pallet name _ _ | noDefaultBytes pallet name => [pallet, name]

/-- The texts that the message of an error is made of. -/
def parts (fault : RegistryFault) : List String :=
  "Invalid metadata: " ::
    match fault with
    | palletName name => ["duplicate pallet name ", name]
    | palletIndex index => ["duplicate pallet index ", toString index.toNat]
    | call pallet name index =>
      ["duplicate call ", pallet, "::", name, " (index ", toString index.toNat, ")"]
    | item pallet name => ["duplicate storage item ", pallet, "::", name]
    | keyCount pallet name hashers keys =>
      [pallet, "::", name, " declares ", toString hashers, " hashers for ", toString keys, " keys"]
    | noDefaultBytes pallet name => [pallet, "::", name, " has no default bytes"]

/-- The message of an error is its texts one after the other. -/
theorem message_eq_join (fault : RegistryFault) :
    (Error.registry fault).message = String.join fault.parts := by
  -- the equations of these two functions are slow to make, so the definitions are opened bare
  delta Error.message message
  cases fault <;>
    simp only [parts, String.join_cons, String.join_nil, String.append_assoc, String.append_empty]

/-- The names of the element that is to blame are among them, in their order. -/
theorem marks_sublist_parts (fault : RegistryFault) : fault.marks.Sublist fault.parts := by
  apply List.Sublist.cons
  cases fault with
  | palletName | palletIndex => exact .cons _ (.cons_cons _ .slnil)
  | call =>
    exact .cons _ (.cons_cons _ (.cons _ (.cons_cons _ (.cons _ (.cons_cons _ (.cons _ .slnil))))))
  | item => exact .cons _ (.cons_cons _ (.cons _ (.cons_cons _ .slnil)))
  | keyCount | noDefaultBytes => exact .cons_cons _ (.cons _ (.cons_cons _ (List.nil_sublist _)))

/-- The message of an error mentions the names of the element that is to blame. -/
theorem message_mentions (fault : RegistryFault) :
    ∀ mark ∈ fault.marks, Mentions (Error.registry fault).message mark := by
  intro mark listed
  rw [message_eq_join]
  exact mentions_join (fault.marks_sublist_parts.subset listed)

end RegistryFault

/-- A registry is accepted exactly when it is consistent. When it is refused, it is blamed for the
first element that offends, where everything before this element is consistent: of the pallets in
their order, and in each its name, its index, its calls and its items with their names, key types
and defaults. The message of the error mentions what this element is called. -/
theorem validate_blames_first_fault (registry : Registry) :
    (registry.validate = .ok () ↔ registry.IsConsistent) ∧
    ∀ fault, (registry.validate = .error fault ↔ registry.FirstFault fault) ∧
      ∀ mark ∈ fault.marks, Mentions (Error.registry fault).message mark := by
  refine ⟨Registry.validate_eq_ok_iff, fun fault => ⟨Registry.validate_eq_error_iff, ?_⟩⟩
  exact fault.message_mentions

/-- A pallet with an item without default bytes behind a call whose index is taken. -/
def faultyPallet : PalletEntry :=
  ⟨"Timestamp", 2, [Registry.call 0 "set" [], Registry.call 0 "unset" []],
    [Registry.plain "Now" "u64" []]⟩

/-- This pallet, and after it one with the name of the first. -/
def faultyRegistry : Registry :=
  ⟨1, [⟨"System", 0, [], []⟩, faultyPallet, ⟨"System", 3, [], []⟩]⟩

/-- A registry with three faults is blamed for the call, which comes first. -/
theorem validate_blames_first_fault_call :
    faultyRegistry.validate = .error (.call "Timestamp" "unset" 0) ∧
      Mentions (Error.registry (.call "Timestamp" "unset" 0)).message "unset" := by
  obtain ⟨first, mentioned⟩ :=
    (validate_blames_first_fault faultyRegistry).2 (.call "Timestamp" "unset" 0)
  refine ⟨first.mpr ?_, mentioned "unset" (by decide)⟩
  have split : faultyRegistry.pallets =
      [⟨"System", 0, [], []⟩] ++ faultyPallet :: [⟨"System", 3, [], []⟩] := rfl
  have listed : faultyPallet.calls =
      [Registry.call 0 "set" []] ++ Registry.call 0 "unset" [] :: [] := rfl
  exact .call split listed (Registry.isConsistent_cut_iff.mpr rfl) (.inr (by decide))

end EnclaveChain
