import EnclaveChain.Proofs.Registry.CallLayout
import EnclaveChain.Proofs.Scale.Opening

/-!
# The calls that are known

The first byte of a call is the index of its pallet, and the second one is its index there. The
reader of calls and the built-in registry know the same pairs, though neither is made from the
other: one evaluation compares what the two layers of variants open with to the tables of the
registry (`RuntimeCall.exists_opening`). What is refused later, inside the arguments, has faults
with other types in them, and so a fault tells by its text whether it was an index that was refused.
-/
namespace EnclaveChain

open Scale

/-! ### The two tables of indices -/

/-- The name of a choice, its tags, and whether no choice inside could be taken for it or for one
of the pallets. -/
def Scale.Opening.summary (opening : Opening) : String × List UInt8 × Bool :=
  (opening.type, opening.tags,
    !opening.inside.contains "RuntimeCall" && !opening.inside.contains "Call")

/-- The pallets that have calls. -/
def Registry.callable (registry : Registry) : List PalletEntry :=
  registry.pallets.filter fun pallet => pallet.calls ≠ []

/-- Calls open with the indices of the pallets that have calls, and go on with their indices. -/
theorem RuntimeCall.exists_opening :
    ∃ opening, schema.opening? = some opening ∧ opening.type = "RuntimeCall" ∧
      opening.tags = Registry.builtin.callable.map (·.index) ∧
      (opening.payloads.map fun (tag, name, inner) =>
          (tag, name, inner.schema.opening?.map Opening.summary)) =
        Registry.builtin.callable.map fun pallet =>
          (pallet.index, pallet.name, some ("Call", pallet.calls.map (·.index), true)) :=
  ⟨_, rfl, rfl, rfl, rfl⟩

/-- The part of a call that is read after the index of a pallet. -/
def PalletEntry.part (pallet : PalletEntry) : Part :=
  .named ("RuntimeCall::" ++ pallet.name ++ ".0")

/-- After the index of a pallet with calls, one of these is read as a part of the call. -/
theorem RuntimeCall.exists_inner {pallet : PalletEntry}
    (member : pallet ∈ Registry.builtin.pallets) (called : pallet.calls ≠ []) :
    ∃ (inner : SomeSchema) (opening : Opening), inner.schema.opening? = some opening ∧
      opening.type = "Call" ∧ opening.tags = pallet.calls.map (·.index) ∧
      "RuntimeCall" ∉ opening.inside ∧ "Call" ∉ opening.inside ∧
      ∀ {bytes error}, decode (pallet.index :: bytes) = .error error ↔
        ∃ fault, inner.schema.decode bytes = .error fault ∧ error = fault.within pallet.part := by
  obtain ⟨outer, opens, named, -, table⟩ := exists_opening
  have callable : pallet ∈ Registry.builtin.callable :=
    List.mem_filter.mpr ⟨member, decide_eq_true called⟩
  have listed := List.mem_map_of_mem (f := fun pallet : PalletEntry =>
    (pallet.index, pallet.name, some ("Call", pallet.calls.map (·.index), true))) callable
  rw [← table] at listed
  obtain ⟨⟨tag, name, inner⟩, held, same⟩ := List.mem_map.mp listed
  simp only [Prod.mk.injEq, Option.map_eq_some_iff] at same
  obtain ⟨rfl, rfl, opening, inside, summary⟩ := same
  simp only [Opening.summary, Prod.mk.injEq, Bool.and_eq_true, Bool.not_eq_true',
    List.contains_eq_mem, decide_eq_false_iff_not] at summary
  obtain ⟨type, tags, outerApart, innerApart⟩ := summary
  refine ⟨inner, opening, inside, type, tags, outerApart, innerApart, ?_⟩
  intro bytes error
  have read : decode (pallet.index :: bytes) = .error error ↔ _ := schema.decode_payload opens held
  rw [named] at read
  exact read

/-! ### What is refused -/

/-- The first byte is refused where no pallet with calls has it as its index. -/
theorem RuntimeCall.decode_of_no_calls {first : UInt8} (rest : Bytes)
    (silent : ∀ pallet ∈ Registry.builtin.pallets, pallet.index = first → pallet.calls = []) :
    decode (first :: rest) = .error (.bare (.unknownVariant "RuntimeCall")) := by
  obtain ⟨opening, opens, named, tags, -⟩ := exists_opening
  have unknown : first ∉ opening.tags := by
    rw [tags]
    intro listed
    obtain ⟨pallet, callable, same⟩ := List.mem_map.mp listed
    obtain ⟨member, called⟩ := List.mem_filter.mp callable
    exact of_decide_eq_true called (silent pallet member same)
  rw [← named]
  exact schema.decode_of_notMem opens unknown rest

/-- The second byte is refused where the pallet has no call of that index. -/
theorem RuntimeCall.decode_of_unlisted {pallet : PalletEntry}
    (member : pallet ∈ Registry.builtin.pallets) (called : pallet.calls ≠ []) {second : UInt8}
    (unlisted : second ∉ pallet.calls.map (·.index)) (rest : Bytes) :
    decode (pallet.index :: second :: rest) =
      .error ⟨[pallet.part], .unknownVariant "Call"⟩ := by
  obtain ⟨inner, opening, opens, named, tags, -, -, part⟩ := exists_inner member called
  rw [← tags] at unlisted
  have refused := inner.schema.decode_of_notMem opens unlisted rest
  rw [named] at refused
  exact part.mpr ⟨_, refused, rfl⟩

/-- What is refused after the indices of a call is blamed on other types. -/
theorem RuntimeCall.cause_of_listed {pallet : PalletEntry}
    (member : pallet ∈ Registry.builtin.pallets) {second : UInt8}
    (listed : second ∈ pallet.calls.map (·.index)) {rest : Bytes} {error : DecodeError}
    (failed : decode (pallet.index :: second :: rest) = .error error) :
    error.cause ≠ .unknownVariant "RuntimeCall" ∧ error.cause ≠ .unknownVariant "Call" := by
  have called : pallet.calls ≠ [] := by
    intro empty
    rw [empty] at listed
    cases listed
  obtain ⟨inner, opening, opens, -, tags, outerApart, innerApart, part⟩ :=
    exists_inner member called
  obtain ⟨fault, inside, rfl⟩ := part.mp failed
  rw [← tags] at listed
  have blames := inner.schema.after_blames opens listed
  exact ⟨fun caused => outerApart (blames inside caused),
    fun caused => innerApart (blames inside caused)⟩

/-- A call was refused for its indices: no pallet has its first byte, or its pallet has no call of
its second one. -/
inductive IndexFault (first : UInt8) : DecodeError → Prop where
  /-- No pallet with calls has the index. -/
  | pallet : IndexFault first (.bare (.unknownVariant "RuntimeCall"))
  /-- The pallet has no call of the index. -/
  | call {pallet : PalletEntry} (member : pallet ∈ Registry.builtin.pallets)
      (index : pallet.index = first) : IndexFault first ⟨[pallet.part], .unknownVariant "Call"⟩

/-- The text at the root of an error says that there is no such pallet, or that there is no such
call inside a pallet. -/
def Scale.DecodeError.RefusesIndex (error : DecodeError) : Prop :=
  error.cause.message = "Could not decode `RuntimeCall`, variant doesn't exist" ∨
    error.cause.message = "Could not decode `Call`, variant doesn't exist" ∧
      ∃ pallet, error.parts.head? = some (.named ("RuntimeCall::" ++ pallet ++ ".0"))

/-- An error with such a text blames one of the two types of calls. -/
theorem Scale.DecodeError.RefusesIndex.cause {error : DecodeError} (refuses : error.RefusesIndex) :
    error.cause = .unknownVariant "RuntimeCall" ∨ error.cause = .unknownVariant "Call" := by
  rcases refuses with outer | ⟨inner, -⟩
  · exact .inl ((Cause.message_eq_unknownVariant_iff "RuntimeCall").mp outer)
  · exact .inr ((Cause.message_eq_unknownVariant_iff "Call").mp inner)

/-- A refused index has such a text. -/
theorem IndexFault.refusesIndex {first : UInt8} {error : DecodeError}
    (fault : IndexFault first error) : error.RefusesIndex := by
  cases fault with
  | pallet => exact .inl rfl
  | @call pallet => exact .inr ⟨rfl, pallet.name, rfl⟩

/-! ### The two tables agree -/

/-- A pair of indices is not in the registry exactly when it is refused, and otherwise whatever is
refused is blamed on other types. -/
theorem RuntimeCall.decode_indices (first second : UInt8) (rest : Bytes) :
    (Registry.builtin.callAt first second = .error (.unknownCall first second) ∧
      ∃ error, decode (first :: second :: rest) = .error error ∧ IndexFault first error) ∨
    (Registry.builtin.callAt first second ≠ .error (.unknownCall first second) ∧
      ∀ error, decode (first :: second :: rest) = .error error → ¬ error.RefusesIndex) := by
  have known := Registry.callAt_eq_error_iff builtin_palletIndices_nodup first second
  -- Three cases: a listed call, a pallet that does not list it, and no pallet with calls.
  by_cases listed : ∃ pallet ∈ Registry.builtin.pallets,
      pallet.index = first ∧ second ∈ pallet.calls.map (·.index)
  · obtain ⟨pallet, member, rfl, listed⟩ := listed
    refine .inr ⟨?_, ?_⟩
    · intro unknown
      exact known.mp unknown pallet member rfl listed
    · intro error failed refuses
      obtain ⟨outer, inner⟩ := cause_of_listed member listed failed
      rcases refuses.cause with same | same
      · exact outer same
      · exact inner same
  · have unlisted : ∀ pallet ∈ Registry.builtin.pallets, pallet.index = first →
        second ∉ pallet.calls.map (·.index) := by
      intro pallet member same inside
      exact listed ⟨pallet, member, same, inside⟩
    refine .inl ⟨known.mpr unlisted, ?_⟩
    by_cases callable : ∃ pallet ∈ Registry.builtin.pallets,
        pallet.index = first ∧ pallet.calls ≠ []
    · obtain ⟨pallet, member, rfl, called⟩ := callable
      exact ⟨_, decode_of_unlisted member called (unlisted pallet member rfl) rest,
        .call member rfl⟩
    · have silent : ∀ pallet ∈ Registry.builtin.pallets, pallet.index = first →
          pallet.calls = [] := by
        intro pallet member same
        apply Classical.byContradiction
        intro called
        exact callable ⟨pallet, member, same, called⟩
      exact ⟨_, decode_of_no_calls _ silent, .pallet⟩

/-- A call that is read has the indices it was read from, and the registry names its pallet. -/
theorem RuntimeCall.indices_of_decode {first second : UInt8} {rest left : Bytes}
    {call : RuntimeCall} (decoded : decode (first :: second :: rest) = .ok (call, left)) :
    call.indices = (first, second) ∧
      ∃ name, call.describe Registry.builtin = .ok (call.pallet.name, name) := by
  obtain ⟨pallet, member, entry, called, tags, -⟩ := call.exists_entry
  have apart : schema.dissect call = ⟨[pallet.index, entry.index], call.fields⟩ := by
    rw [tags, fields]
  have written : first :: second :: rest = call.encode ++ left :=
    schema.canonical _ _ _ decoded
  rw [encode_of_dissect apart, List.cons_append, List.cons_append, List.cons.injEq,
    List.cons.injEq] at written
  obtain ⟨rfl, rfl, -⟩ := written
  refine ⟨indices_of_dissect apart, entry.name, ?_⟩
  rw [describe, indices_of_dissect apart, ← name_eq_of_tags member tags]
  simp only [builtin_callAt member called]

/-- The reader of calls and the built-in registry know the same calls. Whatever comes after them,
two bytes are refused as the indices of a call exactly when the registry has no call of these
indices, and a text at the root of an error that says so is never about a later byte. A call that
is read has the two bytes as its indices, and the registry describes it with the name of its
pallet. A pallet that the registry lists without calls is refused like one that it does not
list. -/
theorem calls_known_iff_listed (first second : UInt8) (rest : Bytes) :
    ((∃ error, RuntimeCall.decode (first :: second :: rest) = .error error ∧
        error.RefusesIndex) ↔
      Registry.builtin.callAt first second = .error (.unknownCall first second)) ∧
    (∀ error, RuntimeCall.decode (first :: second :: rest) = .error error →
      error.RefusesIndex → IndexFault first error) ∧
    (∀ call left, RuntimeCall.decode (first :: second :: rest) = .ok (call, left) →
      call.indices = (first, second) ∧
        ∃ name, call.describe Registry.builtin = .ok (call.pallet.name, name)) ∧
    (∀ pallet ∈ Registry.builtin.pallets, pallet.index = first → pallet.calls = [] →
      RuntimeCall.decode (first :: second :: rest) =
          .error (.bare (.unknownVariant "RuntimeCall")) ∧
        Registry.builtin.callAt first second = .error (.unknownCall first second)) := by
  refine ⟨?_, ?_, ?_, ?_⟩
  · rcases RuntimeCall.decode_indices first second rest with
      ⟨unknown, error, failed, fault⟩ | ⟨known, later⟩
    · exact ⟨fun _ => unknown, fun _ => ⟨error, failed, fault.refusesIndex⟩⟩
    · constructor
      · rintro ⟨error, failed, refuses⟩
        exact absurd refuses (later error failed)
      · intro unknown
        exact absurd unknown known
  · intro error failed refuses
    rcases RuntimeCall.decode_indices first second rest with
      ⟨-, other, refused, fault⟩ | ⟨-, later⟩
    · rw [failed] at refused
      cases refused
      exact fault
    · exact absurd refuses (later error failed)
  · intro call left decoded
    exact RuntimeCall.indices_of_decode decoded
  · intro pallet member same empty
    have silent : ∀ other ∈ Registry.builtin.pallets, other.index = first →
        other.calls = [] := by
      intro other listed equal
      have found := Registry.palletAt?_of_mem builtin_palletIndices_nodup listed
      rw [equal, ← same, Registry.palletAt?_of_mem builtin_palletIndices_nodup member] at found
      rw [← Option.some.inj found, empty]
    refine ⟨RuntimeCall.decode_of_no_calls _ silent, ?_⟩
    apply (Registry.callAt_eq_error_iff builtin_palletIndices_nodup first second).mpr
    intro other listed equal
    rw [silent other listed equal]
    exact List.not_mem_nil

/-- The two bytes of a rerun are those of a task call that the registry names, the gap between the
two remarks is refused by both, and so is a pallet without calls. -/
theorem calls_known_iff_listed_rerun :
    (RuntimeCall.task (.rerun 7)).indices = (52, 2) ∧
      (∃ error, RuntimeCall.decode [0, 3, 0] = .error error ∧ IndexFault 0 error) ∧
      RuntimeCall.decode [3, 0] = .error (.bare (.unknownVariant "RuntimeCall")) := by
  refine ⟨?_, ?_, ?_⟩
  · exact ((calls_known_iff_listed 52 2 [7, 0, 0, 0, 0, 0, 0, 0]).2.2.1 _ [] rfl).1
  · obtain ⟨agree, about, -⟩ := calls_known_iff_listed 0 3 [0]
    obtain ⟨error, failed, refuses⟩ := agree.mpr rfl
    exact ⟨error, failed, about error failed refuses⟩
  · obtain ⟨-, -, -, silent⟩ := calls_known_iff_listed 3 0 []
    exact (silent Registry.builtin.pallets[2] (List.getElem_mem _) rfl rfl).1

end EnclaveChain
