import EnclaveChain.Scale.DecodeError

/-!
# Faults by their texts

The text of a fault tells what the fault is. The first letter alone tells the faults of an input
that ends too early, and those of a tag that no variant has, from all others.
-/
namespace EnclaveChain.Scale

/-- A text begins as its first part does. -/
theorem head?_toList_append {front rest : String} {first : Char}
    (begins : front.toList.head? = some first) : (front ++ rest).toList.head? = some first := by
  rw [String.toList_append, List.head?_append, begins]
  rfl

namespace Cause

/-- The first letter of the text of a fault. -/
def initial : Cause → Char
  | endOfData | endOfVector => 'N'
  | unknownVariant _ => 'C'
  | optionByte | compactWidth _ => 'u'
  | boolByte | leftover => 'I'
  | compactRange _ => 'o'

/-- The text begins with that letter. -/
theorem head?_message (cause : Cause) : cause.message.toList.head? = some cause.initial := by
  cases cause with
  | endOfData => decide
  | endOfVector => decide
  | optionByte => decide
  | boolByte => decide
  | leftover => decide
  | unknownVariant type =>
    have begins : "Could not decode `".toList.head? = some 'C' := by decide
    exact head?_toList_append (head?_toList_append begins)
  | compactRange width =>
    have begins : "out of range decoding Compact<".toList.head? = some 'o' := by decide
    exact head?_toList_append (head?_toList_append begins)
  | compactWidth width =>
    have begins : "unexpected prefix decoding Compact<".toList.head? = some 'u' := by decide
    exact head?_toList_append (head?_toList_append begins)

/-- Faults with one text begin with one letter. -/
theorem initial_eq_of_message_eq {cause : Cause} (other : Cause)
    (same : cause.message = other.message) : cause.initial = other.initial := by
  have heads := cause.head?_message
  rw [same, other.head?_message, Option.some.injEq] at heads
  exact heads.symm

/-- Whether a fault says that the input ends too early. -/
def isShort : Cause → Bool
  | endOfData | endOfVector => true
  | _ => false

/-- It says so exactly when its text is one of two. -/
theorem isShort_iff_message (cause : Cause) :
    cause.isShort ↔ cause.message = "Not enough data to fill buffer" ∨
      cause.message = "Not enough data to decode vector" := by
  constructor
  · intro short
    cases cause with
    | endOfData => exact .inl rfl
    | endOfVector => exact .inr rfl
    | _ => cases short
  · intro named
    have begins : cause.initial = 'N' := by
      rcases named with same | same
      · exact initial_eq_of_message_eq endOfData same
      · exact initial_eq_of_message_eq endOfVector same
    cases cause with
    | endOfData => rfl
    | endOfVector => rfl
    | _ => simp [initial] at begins

/-- The text of a fault says that a type has no such variant exactly when the fault says so. -/
theorem message_eq_unknownVariant_iff {cause : Cause} (type : String) :
    cause.message = "Could not decode `" ++ type ++ "`, variant doesn't exist" ↔
      cause = unknownVariant type := by
  constructor
  · intro same
    have begins : cause.initial = 'C' :=
      initial_eq_of_message_eq (unknownVariant type) same
    cases cause with
    | unknownVariant other =>
      change "Could not decode `" ++ other ++ "`, variant doesn't exist" = _ at same
      rw [String.append_left_inj, String.append_right_inj] at same
      rw [same]
    | _ => simp [initial] at begins
  · rintro rfl
    rfl

end Cause

end EnclaveChain.Scale
