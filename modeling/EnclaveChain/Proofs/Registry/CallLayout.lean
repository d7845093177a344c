import EnclaveChain.Proofs.Registry.Lookup
import EnclaveChain.Proofs.Scale.Signature
import Mathlib.Data.List.Forall2

/-!
# The built-in registry describes the calls

The built-in registry and the layouts of the calls are two tables, and one evaluation shows that
they list the same indices, names and types in the same order (`builtin_rows`). What a signature
says about bytes then holds of the registry: its entries are what the calls are written by, and
whatever is written by an entry is read as a call of that entry.
-/
namespace EnclaveChain

open Scale

/-! ### Reading the registry -/

namespace Registry

/-- The layouts of the types that arguments of calls have. -/
def argumentLayouts : List SomeSchema :=
  [⟨.u8⟩, ⟨.u16⟩, ⟨.u32⟩, ⟨.u64⟩, ⟨.u128⟩, ⟨.compact64⟩, ⟨.compact128⟩, ⟨.array 32⟩, ⟨.bytes⟩,
    ⟨MultiAddress.schema⟩, ⟨WorkloadId.schema⟩, ⟨EntryCommand.schema⟩, ⟨EnclaveKind.schema⟩,
    ⟨UnitPrices.schema⟩, ⟨.list HostAddress.schema⟩, ⟨.list Port.schema⟩, ⟨.list EnvEntry.schema⟩,
    ⟨.list Disk.schema⟩, ⟨.option .u32⟩, ⟨.option .bytes⟩, ⟨.option (.list Port.schema)⟩,
    ⟨.option EntryCommand.schema⟩, ⟨.option WorkProof.schema⟩]

/-- The layout of the type of a name. -/
def layoutNamed? (name : String) : Option SomeSchema :=
  argumentLayouts.find? fun some => some.schema.typeName = name

end Registry

namespace CallEntry

/-- The field that holds an argument. Both have one name, but a change of a workload keeps the
workload's number as `id` whatever its pallet calls it. -/
def fieldNamed (entry : CallEntry) (argument : String) : String :=
  if entry.name = "update" ∧ argument ∈ ["app_id", "task_id"] then "id" else argument

/-- A field holds an argument when it has its name and its type. -/
def Holds (entry : CallEntry) (argument : ArgumentEntry) (field : String × SomeValue) : Prop :=
  field.1 = entry.fieldNamed argument.name ∧
    Registry.layoutNamed? argument.type = some field.2.layout

/-- The indices of a call, and the names and layouts of its arguments. -/
def row (pallet : PalletEntry) (entry : CallEntry) : Bytes × List (String × Option SomeSchema) :=
  ([pallet.index, entry.index], entry.args.map fun argument =>
    (entry.fieldNamed argument.name, Registry.layoutNamed? argument.type))

end CallEntry

/-- The named values of a call, in the order in which its type declares them. -/
def RuntimeCall.fields (call : RuntimeCall) : List (String × SomeValue) :=
  (schema.dissect call).fields

/-- The indices of a signature, and its names and layouts. -/
def Scale.Signature.row (signature : Signature) : Bytes × List (String × Option SomeSchema) :=
  (signature.tags, signature.fields.map fun (name, layout) => (name, some layout))

/-! ### The two tables -/

/-- No two layouts have the same name. -/
theorem Registry.argumentLayouts_nodup :
    (argumentLayouts.map (·.schema.typeName)).Nodup := by decide

/-- The layout of a name is the one whose type has this name. -/
theorem Registry.layoutNamed?_eq_some_iff {name : String} {layout : SomeSchema} :
    layoutNamed? name = some layout ↔
      layout ∈ argumentLayouts ∧ layout.schema.typeName = name :=
  find?_key_eq_some_iff argumentLayouts_nodup

/-- The registry lists the calls as their layouts do. -/
theorem builtin_rows :
    (Registry.builtin.pallets.flatMap fun pallet => pallet.calls.map (CallEntry.row pallet)) =
      RuntimeCall.schema.signatures.map Signature.row := by rfl

/-- The pallets of the registry have indices of their own. -/
theorem builtin_palletIndices_nodup : (Registry.builtin.pallets.map (·.index)).Nodup := by decide

/-- The calls of each pallet of the registry have indices of their own. -/
theorem builtin_callIndices_nodup :
    ∀ pallet ∈ Registry.builtin.pallets, (pallet.calls.map (·.index)).Nodup := by decide

/-- The first tag of a call is the index of its pallet. -/
theorem RuntimeCall.name_palletAt? (call : RuntimeCall) :
    ((schema.dissect call).tags.head?.bind Registry.builtin.palletAt?).map (·.name) =
      some call.pallet.name := by
  cases call <;> rfl

/-! ### From one table to the other -/

/-- Two lists have the same images when their items have, one by one. -/
theorem map_eq_map_iff {α β γ : Type*} {f : α → γ} {g : β → γ} {left : List α} {right : List β} :
    left.map f = right.map g ↔
      List.Forall₂ (fun first second => f first = g second) left right := by
  have same : left.map f = right.map g ↔ List.Forall₂ Eq (left.map f) (right.map g) := by
    rw [List.forall₂_eq_eq_eq]
  rw [same, List.forall₂_map_left_iff, List.forall₂_map_right_iff]

/-- An entry has the row of some parts exactly when these have its indices and hold its
arguments in order. -/
theorem CallEntry.row_eq_iff {pallet : PalletEntry} {entry : CallEntry} {parts : Parts} :
    entry.row pallet = parts.signature.row ↔
      [pallet.index, entry.index] = parts.tags ∧
        List.Forall₂ entry.Holds entry.args parts.fields := by
  have holds : (fun (argument : ArgumentEntry) (field : String × SomeValue) =>
      (entry.fieldNamed argument.name, Registry.layoutNamed? argument.type) =
        (field.1, some field.2.layout)) = entry.Holds := by
    funext argument field
    rw [Prod.mk.injEq, Holds, eq_comm (a := field.1)]
  rw [row, Signature.row, Prod.mk.injEq, Parts.signature, List.map_map, map_eq_map_iff, ← holds]
  rfl

/-- A row shows all of a signature. -/
theorem Scale.Signature.row_injective : Function.Injective Signature.row := by
  rintro ⟨tags, fields⟩ ⟨others, layouts⟩ same
  obtain ⟨rfl, same⟩ := Prod.mk.inj same
  have inner : Function.Injective fun field : String × SomeSchema => (field.1, some field.2) := by
    rintro ⟨left, first⟩ ⟨right, second⟩ pair
    simpa using pair
  have layoutsSame : fields = layouts := List.map_injective_iff.mpr inner same
  rw [layoutsSame]

/-- Every call has an entry in the registry, with its tags and its fields. -/
theorem RuntimeCall.exists_entry (call : RuntimeCall) :
    ∃ pallet ∈ Registry.builtin.pallets, ∃ entry ∈ pallet.calls,
      [pallet.index, entry.index] = (schema.dissect call).tags ∧
        List.Forall₂ entry.Holds entry.args call.fields := by
  have listed : (schema.dissect call).signature.row ∈ schema.signatures.map Signature.row :=
    List.mem_map_of_mem (schema.signature_mem call)
  rw [← builtin_rows] at listed
  obtain ⟨pallet, member, inside⟩ := List.mem_flatMap.mp listed
  obtain ⟨entry, called, same⟩ := List.mem_map.mp inside
  exact ⟨pallet, member, entry, called, CallEntry.row_eq_iff.mp same⟩

/-- Values for the arguments of an entry are the fields of a call with the indices of the entry. -/
theorem RuntimeCall.exists_of_entry {pallet : PalletEntry} {entry : CallEntry}
    (member : pallet ∈ Registry.builtin.pallets) (called : entry ∈ pallet.calls)
    {fields : List (String × SomeValue)} (held : List.Forall₂ entry.Holds entry.args fields) :
    ∃ call, schema.dissect call = ⟨[pallet.index, entry.index], fields⟩ := by
  have listed : entry.row pallet ∈ schema.signatures.map Signature.row := by
    rw [← builtin_rows]
    exact List.mem_flatMap.mpr ⟨pallet, member, List.mem_map_of_mem called⟩
  have own : entry.row pallet =
      Signature.row (Parts.signature ⟨[pallet.index, entry.index], fields⟩) :=
    CallEntry.row_eq_iff.mpr ⟨rfl, held⟩
  rw [own] at listed
  obtain ⟨signature, found, same⟩ := List.mem_map.mp listed
  rw [Signature.row_injective same] at found
  exact schema.exists_dissect_eq _ found

/-- The pallet that lists a call has the name of the pallet that the call belongs to. -/
theorem RuntimeCall.name_eq_of_tags {call : RuntimeCall} {pallet : PalletEntry} {tags : Bytes}
    (member : pallet ∈ Registry.builtin.pallets)
    (same : pallet.index :: tags = (schema.dissect call).tags) :
    pallet.name = call.pallet.name := by
  have named := call.name_palletAt?
  have found := Registry.palletAt?_of_mem builtin_palletIndices_nodup member
  rw [← same, List.head?_cons, Option.bind_some, found] at named
  exact Option.some.inj named

/-- An encoding opens with the tags of the call. -/
theorem RuntimeCall.encode_of_dissect {call : RuntimeCall} {first second : UInt8}
    {fields : List (String × SomeValue)} (apart : schema.dissect call = ⟨[first, second], fields⟩) :
    call.encode = first :: second :: fields.flatMap (fun field => field.2.encode) := by
  rw [encode, schema.encode_eq_dissect, apart]
  rfl

/-- The indices of a call are its tags. -/
theorem RuntimeCall.indices_of_dissect {call : RuntimeCall} {first second : UInt8}
    {fields : List (String × SomeValue)} (apart : schema.dissect call = ⟨[first, second], fields⟩) :
    call.indices = (first, second) := by
  rw [indices, encode_of_dissect apart]

/-- Every argument of the registry has a type with a layout. -/
theorem builtin_types_known :
    ∀ pallet ∈ Registry.builtin.pallets, ∀ entry ∈ pallet.calls, ∀ argument ∈ entry.args,
      (Registry.layoutNamed? argument.type).isSome := by decide

/-- A listed call is found under its indices. -/
theorem builtin_callAt {pallet : PalletEntry} {entry : CallEntry}
    (member : pallet ∈ Registry.builtin.pallets) (called : entry ∈ pallet.calls) :
    Registry.builtin.callAt pallet.index entry.index = .ok (pallet, entry) :=
  Registry.callAt_of_mem builtin_palletIndices_nodup member
    (builtin_callIndices_nodup pallet member) called

/-- Values of the listed types are held by fields with the names of the arguments. -/
theorem CallEntry.exists_fields (entry : CallEntry) {arguments : List ArgumentEntry}
    {values : List SomeValue}
    (typed : List.Forall₂ (fun argument value =>
      Registry.layoutNamed? argument.type = some value.layout) arguments values) :
    ∃ fields : List (String × SomeValue),
      fields.map (·.2) = values ∧ List.Forall₂ entry.Holds arguments fields := by
  induction typed with
  | nil => exact ⟨[], rfl, .nil⟩
  | @cons argument value arguments values layout _ ih =>
    obtain ⟨fields, rfl, held⟩ := ih
    exact ⟨(entry.fieldNamed argument.name, value) :: fields, rfl, .cons ⟨rfl, layout⟩ held⟩

/-- The built-in registry describes the wire format of all calls. A call is listed under its
indices and in its pallet; its encoding is the two indices and then, in the order of the listed
arguments, the values of the fields that hold them, each laid out as the type that is listed. And
the two indices of any listed call followed by any values of the listed types, if their vectors are
short enough to be written, are read as a call with these values and the names of that entry. -/
theorem registry_describes_calls :
    (∀ call : RuntimeCall, ∃ pallet entry,
      Registry.builtin.callAt call.indices.1 call.indices.2 = .ok (pallet, entry) ∧
      pallet.name = call.pallet.name ∧
      List.Forall₂ entry.Holds entry.args call.fields ∧
      call.encode = pallet.index :: entry.index ::
        call.fields.flatMap (fun field => field.2.encode)) ∧
    (∀ pallet ∈ Registry.builtin.pallets, ∀ entry ∈ pallet.calls,
      (∀ argument ∈ entry.args, (Registry.layoutNamed? argument.type).isSome) ∧
      ∀ values : List SomeValue,
        List.Forall₂ (fun argument value =>
          Registry.layoutNamed? argument.type = some value.layout) entry.args values →
        (∀ value ∈ values, value.fits) →
        ∃ call, RuntimeCall.schema.decodeAll
            (pallet.index :: entry.index :: values.flatMap SomeValue.encode) = .ok call ∧
          call.fields.map (·.2) = values ∧
          call.describe Registry.builtin = .ok (pallet.name, entry.name)) := by
  constructor
  · intro call
    obtain ⟨pallet, member, entry, called, tags, held⟩ := call.exists_entry
    have apart : RuntimeCall.schema.dissect call = ⟨[pallet.index, entry.index], call.fields⟩ := by
      rw [tags, RuntimeCall.fields]
    refine ⟨pallet, entry, ?_, RuntimeCall.name_eq_of_tags member tags, held,
      RuntimeCall.encode_of_dissect apart⟩
    rw [RuntimeCall.indices_of_dissect apart]
    exact builtin_callAt member called
  · intro pallet member entry called
    refine ⟨builtin_types_known pallet member entry called, ?_⟩
    intro values typed fitting
    obtain ⟨fields, rfl, held⟩ := entry.exists_fields typed
    obtain ⟨call, apart⟩ := RuntimeCall.exists_of_entry member called held
    refine ⟨call, ?_, by rw [RuntimeCall.fields, apart], ?_⟩
    · apply RuntimeCall.schema.decodeAll_eq_ok_iff.mpr
      constructor
      · rw [Schema.fits_eq_dissect, apart, Parts.fits, List.all_eq_true]
        intro field listed
        exact fitting field.2 (List.mem_map_of_mem listed)
      · have written := RuntimeCall.encode_of_dissect apart
        rw [RuntimeCall.encode] at written
        rw [written, List.flatMap_map]
    · rw [RuntimeCall.describe, RuntimeCall.indices_of_dissect apart]
      simp only [builtin_callAt member called]

/-- A task charge, written by its entry from a number and a deposit. -/
theorem registry_describes_calls_charge :
    ∃ call, RuntimeCall.schema.decodeAll
        (52 :: 4 :: [SomeValue.mk .u64 7, ⟨.u128, 5⟩].flatMap SomeValue.encode) = .ok call ∧
      call.fields.map (·.2) = [⟨.u64, 7⟩, ⟨.u128, 5⟩] ∧
      call.describe Registry.builtin = .ok ("WeteeTask", "charge") := by
  have listed := registry_describes_calls.2 Registry.builtin.pallets[8] (List.getElem_mem _)
    Registry.builtin.pallets[8].calls[4] (List.getElem_mem _)
  exact listed.2 [⟨.u64, 7⟩, ⟨.u128, 5⟩] (.cons rfl (.cons rfl .nil)) (by decide)

example : (RuntimeCall.task (.charge 7 5)).fields = [("id", ⟨.u64, 7⟩), ("deposit", ⟨.u128, 5⟩)] :=
  rfl

end EnclaveChain
