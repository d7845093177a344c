import EnclaveChain.Scale.Schema

/-!
# What decoders read

A decoder reads an encoding when the values that it finds at the front of a byte string are the
ones whose encoding stands there, and it leaves the bytes after them. `Decoder.Reads` says so with
the values that have an encoding at all as a parameter. Each operation that joins decoders keeps
it, so what a compound decoder reads is put together from what its parts read.
-/
namespace EnclaveChain.Scale.Decoder

variable {α β : Type}

/-! ### Success of a joined decoder -/

/-- Reading a number of bytes succeeds with the bytes of that number at the front. -/
theorem take_eq_ok_iff {count : Nat} {short : Cause} {bytes front rest : Bytes} :
    take count short bytes = .ok (front, rest) ↔ front.length = count ∧ bytes = front ++ rest := by
  have cut : Bytes.splitFront? count bytes = some (front, rest) ↔
      bytes = front ++ rest ∧ front.length = count := Bytes.splitFront?_eq_some_iff
  rw [and_comm, ← cut, take]
  split
  · rename_i none
    simp [none]
  · rename_i found some
    simp [some]

/-- A changed value comes from a value that was read. -/
theorem map_eq_ok_iff {change : α → β} {decoder : Decoder α} {bytes rest : Bytes} {value : β} :
    decoder.map change bytes = .ok (value, rest) ↔
      ∃ read, decoder bytes = .ok (read, rest) ∧ change read = value := by
  unfold map
  split
  · rename_i error failed
    simp [failed]
  · rename_i read tail found
    simp only [found, Except.ok.injEq, Prod.mk.injEq]
    constructor
    · rintro ⟨rfl, rfl⟩
      exact ⟨read, ⟨rfl, rfl⟩, rfl⟩
    · rintro ⟨other, ⟨rfl, rfl⟩, rfl⟩
      exact ⟨rfl, rfl⟩

/-- A second value is read from the bytes that the first one leaves. -/
theorem andThen_eq_ok_iff {decoder : Decoder α} {next : α → Decoder β} {bytes rest : Bytes}
    {value : β} :
    decoder.andThen next bytes = .ok (value, rest) ↔
      ∃ first middle, decoder bytes = .ok (first, middle) ∧
        next first middle = .ok (value, rest) := by
  unfold andThen
  split
  · rename_i error failed
    simp [failed]
  · rename_i read tail found
    simp only [found, Except.ok.injEq, Prod.mk.injEq]
    constructor
    · intro decoded
      exact ⟨read, tail, ⟨rfl, rfl⟩, decoded⟩
    · rintro ⟨first, middle, ⟨rfl, rfl⟩, decoded⟩
      exact decoded

/-- Naming the part that is read changes no value. -/
theorem within_eq_ok_iff {part : Part} {decoder : Decoder α} {bytes rest : Bytes} {value : α} :
    decoder.within part bytes = .ok (value, rest) ↔ decoder bytes = .ok (value, rest) := by
  unfold within
  split
  · rename_i error failed
    simp [failed]
  · rename_i found read
    rw [read]

/-- One more value is read before the others. -/
theorem times_succ (item : Decoder α) (count : Nat) :
    item.times (count + 1) =
      item.andThen fun first => (item.times count).map fun others => first :: others := by
  funext bytes
  rw [times, andThen]
  split
  · rfl
  · rename_i first middle found
    rw [map]
    cases item.times count middle <;> rfl

/-- All of the input is read when nothing is left after the value. -/
theorem all_eq_ok_iff {decoder : Decoder α} {bytes : Bytes} {value : α} :
    decoder.all bytes = .ok value ↔ decoder bytes = .ok (value, []) := by
  unfold all
  split
  · rename_i error failed
    simp [failed]
  · rename_i read found
    simp [found]
  · rename_i read byte tail found
    simp [found]

/-- All of the input is not read when a value is not read, or when it leaves bytes after it. -/
theorem all_eq_error_iff {decoder : Decoder α} {bytes : Bytes} {error : DecodeError} :
    decoder.all bytes = .error error ↔
      decoder bytes = .error error ∨
        ∃ value byte rest, decoder bytes = .ok (value, byte :: rest) ∧
          error = .bare .leftover := by
  unfold all
  split
  · rename_i failure failed
    simp [failed]
  · rename_i read found
    simp [found]
  · rename_i read byte tail found
    simp [found, eq_comm]

/-! ### Failure of a joined decoder -/

/-- Reading a number of bytes fails when there are fewer. -/
theorem take_eq_error_iff {count : Nat} {short : Cause} {bytes : Bytes} {error : DecodeError} :
    take count short bytes = .error error ↔ bytes.length < count ∧ error = .bare short := by
  have missing : Bytes.splitFront? count bytes = none ↔ bytes.length < count :=
    Bytes.splitFront?_eq_none_iff
  rw [← missing, take]
  split
  · rename_i none
    simp [none, eq_comm]
  · rename_i found some
    simp [some]

/-- Changing a value adds no failure. -/
theorem map_eq_error_iff {change : α → β} {decoder : Decoder α} {bytes : Bytes}
    {error : DecodeError} :
    decoder.map change bytes = .error error ↔ decoder bytes = .error error := by
  unfold map
  split
  · rename_i failure failed
    simp [failed]
  · rename_i read tail found
    simp [found]

/-- Reading two values fails at the first or, after it, at the second. -/
theorem andThen_eq_error_iff {decoder : Decoder α} {next : α → Decoder β} {bytes : Bytes}
    {error : DecodeError} :
    decoder.andThen next bytes = .error error ↔
      decoder bytes = .error error ∨
        ∃ first middle, decoder bytes = .ok (first, middle) ∧
          next first middle = .error error := by
  unfold andThen
  split
  · rename_i failure failed
    simp [failed]
  · rename_i read tail found
    simp only [found, reduceCtorEq, false_or, Except.ok.injEq, Prod.mk.injEq]
    constructor
    · intro failed
      exact ⟨read, tail, ⟨rfl, rfl⟩, failed⟩
    · rintro ⟨first, middle, ⟨rfl, rfl⟩, failed⟩
      exact failed

/-- A failure inside a part is seen from the part. -/
theorem within_eq_error_iff {part : Part} {decoder : Decoder α} {bytes : Bytes}
    {error : DecodeError} :
    decoder.within part bytes = .error error ↔
      ∃ inside, decoder bytes = .error inside ∧ error = inside.within part := by
  unfold within
  split
  · rename_i inside failed
    simp [failed, eq_comm]
  · rename_i found read
    simp [read]

/-! ### Reading encodings -/

/-- A value is read exactly when it fits and its encoding stands at the front. -/
def Reads (decoder : Decoder α) (fits : α → Prop) (encode : α → Bytes) : Prop :=
  ∀ bytes value rest,
    decoder bytes = .ok (value, rest) ↔ fits value ∧ bytes = encode value ++ rest

/-- A number of bytes is its own encoding. -/
theorem take_reads (count : Nat) (short : Cause) :
    (take count short).Reads (·.length = count) id := fun _ _ _ => take_eq_ok_iff

/-- The values that fit and their encodings may be described in other words. -/
theorem Reads.congr {decoder : Decoder α} {fits fits' : α → Prop} {encode encode' : α → Bytes}
    (reads : decoder.Reads fits encode) (sameFits : ∀ value, fits value ↔ fits' value)
    (sameBytes : ∀ value, encode value = encode' value) : decoder.Reads fits' encode' := by
  intro bytes value rest
  rw [← sameFits, ← sameBytes]
  exact reads bytes value rest

/-- Values that are changed back into values that are read have the encodings of these. -/
theorem Reads.map {decoder : Decoder α} {fits : α → Prop} {encode : α → Bytes}
    (reads : decoder.Reads fits encode) (change : α → β) (back : β → α)
    (back_change : ∀ value, fits value → back (change value) = value)
    (change_back : ∀ value, change (back value) = value) :
    (decoder.map change).Reads (fun value => fits (back value))
      (fun value => encode (back value)) := by
  intro bytes value rest
  rw [map_eq_ok_iff]
  constructor
  · rintro ⟨read, decoded, rfl⟩
    have found := (reads _ _ _).mp decoded
    simpa only [back_change read found.1] using found
  · intro encoded
    exact ⟨back value, (reads _ _ _).mpr encoded, change_back value⟩

/-- The name of a part does not change what is read. -/
theorem Reads.within {decoder : Decoder α} {fits : α → Prop} {encode : α → Bytes}
    (reads : decoder.Reads fits encode) (part : Part) :
    (decoder.within part).Reads fits encode := by
  intro bytes value rest
  rw [within_eq_ok_iff]
  exact reads bytes value rest

/-- A value whose first part is read in front and decides how the rest of it is read. -/
theorem Reads.andThen {decoder : Decoder α} {fits : α → Prop} {encode : α → Bytes}
    {next : α → Decoder β} {more : β → Prop} {encodeNext : β → Bytes} {head : β → α}
    (reads : decoder.Reads fits encode)
    (later : ∀ first,
      (next first).Reads (fun value => head value = first ∧ more value) encodeNext) :
    (decoder.andThen next).Reads (fun value => fits (head value) ∧ more value)
      (fun value => encode (head value) ++ encodeNext value) := by
  intro bytes value rest
  rw [andThen_eq_ok_iff]
  constructor
  · rintro ⟨first, middle, decoded, continued⟩
    obtain ⟨⟨rfl, fitting⟩, rfl⟩ := (later _ _ _ _).mp continued
    obtain ⟨front, rfl⟩ := (reads _ _ _).mp decoded
    exact ⟨⟨front, fitting⟩, (List.append_assoc _ _ _).symm⟩
  · rintro ⟨⟨front, fitting⟩, rfl⟩
    refine ⟨head value, encodeNext value ++ rest, ?_, ?_⟩
    · exact (reads _ _ _).mpr ⟨front, List.append_assoc _ _ _⟩
    · exact (later _ _ _ _).mpr ⟨⟨rfl, fitting⟩, rfl⟩

/-- A known first component in front of a second one that is read. -/
theorem Reads.pairWith {decoder : Decoder β} {fits : β → Prop} {encode : β → Bytes}
    (reads : decoder.Reads fits encode) (first : α) :
    (decoder.map fun value => (first, value)).Reads (fun pair => pair.1 = first ∧ fits pair.2)
      (fun pair => encode pair.2) := by
  rintro bytes ⟨left, right⟩ rest
  rw [map_eq_ok_iff]
  constructor
  · rintro ⟨read, decoded, same⟩
    cases same
    obtain ⟨fitting, rfl⟩ := (reads _ _ _).mp decoded
    exact ⟨⟨rfl, fitting⟩, rfl⟩
  · rintro ⟨⟨rfl, fitting⟩, rfl⟩
    exact ⟨right, (reads _ _ _).mpr ⟨fitting, rfl⟩, rfl⟩

/-- A number of values is read with their encodings one after the other. -/
theorem Reads.times {item : Decoder α} {fits : α → Prop} {encode : α → Bytes}
    (reads : item.Reads fits encode) (count : Nat) :
    (item.times count).Reads (fun values => values.length = count ∧ ∀ value ∈ values, fits value)
      (fun values => values.flatMap encode) := by
  induction count with
  | zero =>
    intro bytes values rest
    simp only [Decoder.times, Except.ok.injEq, Prod.mk.injEq, List.length_eq_zero_iff]
    constructor
    · rintro ⟨rfl, rfl⟩
      exact ⟨⟨rfl, by simp⟩, rfl⟩
    · rintro ⟨⟨rfl, -⟩, rfl⟩
      exact ⟨rfl, rfl⟩
  | succ count ih =>
    intro bytes values rest
    rw [times_succ, andThen_eq_ok_iff]
    constructor
    · rintro ⟨first, middle, decoded, continued⟩
      obtain ⟨others, remaining, rfl⟩ := map_eq_ok_iff.mp continued
      obtain ⟨⟨counted, fitting⟩, rfl⟩ := (ih _ _ _).mp remaining
      obtain ⟨front, rfl⟩ := (reads _ _ _).mp decoded
      refine ⟨⟨by rw [List.length_cons, counted], ?_⟩, by simp⟩
      simpa using ⟨front, fitting⟩
    · rintro ⟨⟨counted, fitting⟩, rfl⟩
      cases values with
      | nil => simp at counted
      | cons first others =>
        simp only [List.length_cons, Nat.add_right_cancel_iff] at counted
        simp only [List.mem_cons, forall_eq_or_imp] at fitting
        refine ⟨first, others.flatMap encode ++ rest, ?_, map_eq_ok_iff.mpr ⟨others, ?_, rfl⟩⟩
        · exact (reads _ _ _).mpr ⟨fitting.1, by simp⟩
        · exact (ih _ _ _).mpr ⟨⟨counted, fitting.2⟩, rfl⟩

/-- Of two encodings that begin alike, neither is longer, and they are of one value. -/
theorem Reads.encode_append_inj {decoder : Decoder α} {fits : α → Prop} {encode : α → Bytes}
    (reads : decoder.Reads fits encode) {left right : α} {leftRest rightRest : Bytes}
    (leftFits : fits left) (rightFits : fits right)
    (same : encode left ++ leftRest = encode right ++ rightRest) :
    left = right ∧ leftRest = rightRest := by
  have first := (reads (encode left ++ leftRest) left leftRest).mpr ⟨leftFits, rfl⟩
  have second := (reads (encode left ++ leftRest) right rightRest).mpr ⟨rightFits, same⟩
  rw [first] at second
  simpa using second

end EnclaveChain.Scale.Decoder
