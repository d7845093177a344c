import EnclaveChain.Proofs.Scale.Induction

/-!
# Decoders under more data

A decoder is steady when bytes that come after its input change nothing but a failure for want of
bytes: a value that was read is read again and leaves those bytes too, and an input that was
malformed stays so. All ways to make decoders keep this (`Decoder.steady_law`), and so every layout
has it.
-/
namespace EnclaveChain.Scale

namespace Decoder

variable {α β : Type}

/-- More data changes no value and no failure but one for want of data. -/
structure Steady (decoder : Decoder α) : Prop where
  /-- A value is read again and leaves what was added. -/
  value : ∀ {bytes value rest} more, decoder bytes = .ok (value, rest) →
    decoder (bytes ++ more) = .ok (value, rest ++ more)
  /-- Malformed bytes stay malformed. -/
  fault : ∀ {bytes error} more, decoder bytes = .error error → error.cause.isShort = false →
    decoder (bytes ++ more) = .error error

/-! ### The ways to make decoders -/

/-- Reading nothing is steady. -/
theorem done_steady (value : α) : (done value).Steady := by
  constructor
  · intro bytes found rest more decoded
    cases decoded
    rfl
  · intro bytes error more failed
    cases failed

/-- Failing in any case is steady. -/
theorem fail_steady (cause : Cause) : (fail cause : Decoder α).Steady := by
  constructor
  · intro bytes value rest more decoded
    cases decoded
  · intro bytes error more failed lasting
    exact failed

/-- Reading a number of bytes is steady if it asks for more data when there are fewer. -/
theorem take_steady (count : Nat) {short : Cause} (asks : short.isShort) :
    (take count short).Steady where
  value := by
    intro bytes front rest more taken
    obtain ⟨counted, rfl⟩ := take_eq_ok_iff.mp taken
    exact take_eq_ok_iff.mpr ⟨counted, List.append_assoc _ _ _⟩
  fault := by
    intro bytes error more failed lasting
    obtain ⟨-, rfl⟩ := take_eq_error_iff.mp failed
    rw [DecodeError.bare, asks] at lasting
    cases lasting

/-- A decoder that asks for a first byte, and goes on steadily after it, is steady. -/
theorem Steady.of_after {decoder : Decoder α}
    (asks : ∃ error, decoder [] = .error error ∧ error.cause.isShort)
    (later : ∀ first, (decoder.after first).Steady) : decoder.Steady := by
  obtain ⟨shortage, empty, short⟩ := asks
  constructor
  · intro bytes value rest more decoded
    cases bytes with
    | nil =>
      rw [empty] at decoded
      cases decoded
    | cons first tail => exact (later first).value more decoded
  · intro bytes error more failed lasting
    cases bytes with
    | nil =>
      rw [empty] at failed
      cases failed
      rw [short] at lasting
      cases lasting
    | cons first tail => exact (later first).fault more failed lasting

/-- Changing a value keeps a decoder steady. -/
theorem Steady.map {decoder : Decoder α} (steady : decoder.Steady) (change : α → β) :
    (decoder.map change).Steady where
  value := by
    intro bytes value rest more decoded
    obtain ⟨read, found, changed⟩ := map_eq_ok_iff.mp decoded
    exact map_eq_ok_iff.mpr ⟨read, steady.value more found, changed⟩
  fault := by
    intro bytes error more failed lasting
    exact map_eq_error_iff.mpr (steady.fault more (map_eq_error_iff.mp failed) lasting)

/-- A change that keeps values apart hides nothing. -/
theorem Steady.of_map {decoder : Decoder α} {change : α → β}
    (distinct : Function.Injective change) (steady : (decoder.map change).Steady) :
    decoder.Steady where
  value := by
    intro bytes value rest more decoded
    have changed := steady.value more (map_eq_ok_iff.mpr ⟨value, decoded, rfl⟩)
    obtain ⟨read, found, same⟩ := map_eq_ok_iff.mp changed
    rwa [distinct same] at found
  fault := by
    intro bytes error more failed lasting
    exact map_eq_error_iff.mp (steady.fault more (map_eq_error_iff.mpr failed) lasting)

/-- Steady decoders stay steady one after the other. -/
theorem Steady.andThen {decoder : Decoder α} {next : α → Decoder β} (steady : decoder.Steady)
    (later : ∀ value, (next value).Steady) : (decoder.andThen next).Steady where
  value := by
    intro bytes value rest more decoded
    obtain ⟨first, middle, found, continued⟩ := andThen_eq_ok_iff.mp decoded
    exact andThen_eq_ok_iff.mpr
      ⟨first, middle ++ more, steady.value more found, (later first).value more continued⟩
  fault := by
    intro bytes error more failed lasting
    rcases andThen_eq_error_iff.mp failed with before | ⟨first, middle, found, continued⟩
    · exact andThen_eq_error_iff.mpr (.inl (steady.fault more before lasting))
    · exact andThen_eq_error_iff.mpr (.inr ⟨first, middle ++ more, steady.value more found,
        (later first).fault more continued lasting⟩)

/-- Naming the part that is read keeps a decoder steady. -/
theorem Steady.within {decoder : Decoder α} (steady : decoder.Steady) (part : Part) :
    (decoder.within part).Steady where
  value := by
    intro bytes value rest more decoded
    exact within_eq_ok_iff.mpr (steady.value more (within_eq_ok_iff.mp decoded))
  fault := by
    intro bytes error more failed lasting
    obtain ⟨inside, found, rfl⟩ := within_eq_error_iff.mp failed
    exact within_eq_error_iff.mpr ⟨inside, steady.fault more found lasting, rfl⟩

/-- All ways to make decoders keep them steady. -/
theorem steady_law : Law (fun _ decoder => decoder.Steady) fun _ => True where
  done := done_steady
  fail _ := fail_steady _
  take := take_steady
  ofAfter := Steady.of_after
  map change steady := steady.map change
  ofMap := Steady.of_map
  andThen := Steady.andThen
  within part steady := steady.within part

end Decoder

/-- Every layout has a steady decoder. -/
theorem Schema.decode_steady {α : Type} (schema : Schema α) : schema.decode.Steady :=
  Decoder.steady_law.schema schema fun _ _ => trivial

end EnclaveChain.Scale
