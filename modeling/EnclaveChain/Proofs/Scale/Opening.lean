import EnclaveChain.Proofs.Scale.Induction
import EnclaveChain.Proofs.Scale.Signature

/-!
# The first byte of a choice

A choice is refused at its first byte exactly when no variant has that byte as its tag, and the
fault then names the choice. After a tag that is known, a fault of the same kind can only name a
choice inside the variant, and so where no such choice has the same name the fault tells whether
it was the first byte that was refused.
-/
namespace EnclaveChain.Scale

namespace Decoder

variable {α β : Type}

/-- A decoder finds no variant only of these types. -/
def Blames (decoder : Decoder α) (types : List String) : Prop :=
  ∀ ⦃bytes error type⦄, decoder bytes = .error error → error.cause = .unknownVariant type →
    type ∈ types

variable {types : List String}

/-- A decoder that does not fail blames nothing. -/
theorem done_blames (value : α) (types : List String) : (done value).Blames types := by
  intro bytes error type failed
  cases failed

/-- A failure blames its type. -/
theorem fail_blames {cause : Cause} (named : ∀ type, cause = .unknownVariant type → type ∈ types) :
    (fail cause : Decoder α).Blames types := by
  intro bytes error type failed caused
  cases failed
  exact named type caused

/-- Too few bytes blame no type. -/
theorem take_blames (count : Nat) {short : Cause} (asks : short.isShort) (types : List String) :
    (take count short).Blames types := by
  intro bytes error type failed caused
  obtain ⟨-, rfl⟩ := take_eq_error_iff.mp failed
  obtain rfl : short = .unknownVariant type := caused
  cases asks

/-- A changed value adds no blame. -/
theorem Blames.map {decoder : Decoder α} (blames : decoder.Blames types) (change : α → β) :
    (decoder.map change).Blames types := by
  intro bytes error type failed caused
  exact blames (map_eq_error_iff.mp failed) caused

/-- A value hides none. -/
theorem Blames.of_map {decoder : Decoder α} {change : α → β}
    (blames : (decoder.map change).Blames types) : decoder.Blames types := by
  intro bytes error type failed caused
  exact blames (map_eq_error_iff.mpr failed) caused

/-- Neither does the name of a part. -/
theorem Blames.within {decoder : Decoder α} (blames : decoder.Blames types) (part : Part) :
    (decoder.within part).Blames types := by
  intro bytes error type failed caused
  obtain ⟨inside, found, rfl⟩ := within_eq_error_iff.mp failed
  exact blames found caused

/-- Two values blame what the first or the second blames. -/
theorem Blames.andThen {decoder : Decoder α} {next : α → Decoder β}
    (blames : decoder.Blames types) (later : ∀ value, (next value).Blames types) :
    (decoder.andThen next).Blames types := by
  intro bytes error type failed caused
  rcases andThen_eq_error_iff.mp failed with before | ⟨first, middle, -, continued⟩
  · exact blames before caused
  · exact later first continued caused

/-- A missing first byte blames no type. -/
theorem Blames.of_after {decoder : Decoder α}
    (asks : ∃ error, decoder [] = .error error ∧ error.cause.isShort)
    (later : ∀ first, (decoder.after first).Blames types) : decoder.Blames types := by
  obtain ⟨shortage, empty, short⟩ := asks
  intro bytes error type failed caused
  cases bytes with
  | nil =>
    rw [empty] at failed
    cases failed
    rw [caused] at short
    cases short
  | cons first tail => exact later first failed caused

/-- Decoders made of those that blame some types only blame no others. -/
theorem blames_law (types : List String) :
    Law (fun _ decoder => decoder.Blames types) (· ∈ types) where
  done value := done_blames value types
  fail := fail_blames
  take count _ asks := take_blames count asks types
  ofAfter := Blames.of_after
  map change blames := blames.map change
  ofMap _ := Blames.of_map
  andThen := Blames.andThen
  within part blames := blames.within part

end Decoder

open Decoder

/-! ### Payloads -/

/-- The one value without a name that a body may hold. -/
def Body.payload? : {α : Type} → Body α → Option SomeSchema
  | _, .payload inner => some ⟨inner⟩
  | _, _ => none

/-- The variants that hold one value without a name, each with its tag and its name. -/
def Variants.payloads : {tags : List UInt8} → {α : Type} → Variants tags α →
    List (UInt8 × String × SomeSchema)
  | _, _, .none => []
  | _, _, .variant tag name body others _ =>
    body.payload?.toList.map (fun inner => (tag, name, inner)) ++ others.payloads

/-- A payload is read as part `0` of its owner. -/
theorem Body.decode_payload {α : Type} {body : Body α} {inner : SomeSchema}
    (holds : body.payload? = some inner) {owner : String} {bytes : Bytes} {error : DecodeError} :
    body.decode owner bytes = .error error ↔
      ∃ fault, inner.schema.decode bytes = .error fault ∧
        error = fault.within (.named (owner ++ ".0")) := by
  cases body with
  | payload inner =>
    cases holds
    rw [Body.decode, within_eq_error_iff]
  | nothing => cases holds
  | record fields => cases holds

/-- A variant with a payload has one of the tags. -/
theorem Variants.mem_tags_of_payload : {tags : List UInt8} → {α : Type} →
    (cases : Variants tags α) → {tag : UInt8} → {name : String} → {inner : SomeSchema} →
    (tag, name, inner) ∈ cases.payloads → tag ∈ tags
  | _, _, .none, _, _, _, member => nomatch member
  | _, _, .variant own title body others _, tag, name, inner, member => by
    rw [payloads, List.mem_append, List.mem_map] at member
    rcases member with ⟨found, -, same⟩ | later
    · cases same
      exact List.mem_cons_self
    · exact List.mem_cons_of_mem _ (others.mem_tags_of_payload later)

/-- After the tag of a variant with a payload, the payload is read as a part of the variant. -/
theorem Variants.decode_payload : {tags : List UInt8} → {α : Type} → (cases : Variants tags α) →
    (type : String) → {tag : UInt8} → {name : String} → {inner : SomeSchema} →
    (tag, name, inner) ∈ cases.payloads → {rest : Bytes} → {error : DecodeError} →
    (cases.decode type tag rest = .error error ↔
      ∃ fault, inner.schema.decode rest = .error fault ∧
        error = fault.within (.named (type ++ "::" ++ name ++ ".0")))
  | _, _, .none, _, _, _, _, member, _, _ => nomatch member
  | _, _, .variant own title body others fresh, type, tag, name, inner, member, rest, error => by
    rw [payloads, List.mem_append, List.mem_map] at member
    rw [Variants.decode]
    rcases member with ⟨found, holds, same⟩ | later
    · cases same
      rw [if_pos rfl, map_eq_error_iff]
      exact Body.decode_payload (Option.mem_toList.mp holds)
    · have apart : tag ≠ own := by
        rintro rfl
        exact fresh (others.mem_tags_of_payload later)
      rw [if_neg apart, map_eq_error_iff]
      exact others.decode_payload type later

/-! ### Openings -/

/-- What the first byte of a choice may be and what comes after it. -/
structure Opening : Type 1 where
  /-- The name of the choice. -/
  type : String
  /-- The tags of its variants. -/
  tags : List UInt8
  /-- The variants that hold one value without a name. -/
  payloads : List (UInt8 × String × SomeSchema)
  /-- The names of the choices in its variants. -/
  inside : List String

/-- The opening of a layout that is a choice. -/
def Schema.opening? : {α : Type} → Schema α → Option Opening
  | _, .alias _ inner => inner.opening?
  | _, .via _ inner => inner.opening?
  | _, @Schema.choice tags _ type cases => some ⟨type, tags, cases.payloads, cases.choices⟩
  | _, _ => none

variable {opening : Opening} {tag : UInt8}

/-- A first byte that is no tag is refused, and the choice is blamed. -/
theorem Schema.decode_of_notMem : {α : Type} → (schema : Schema α) →
    schema.opening? = some opening → tag ∉ opening.tags → (rest : Bytes) →
    schema.decode (tag :: rest) = .error (.bare (.unknownVariant opening.type))
  | _, .alias _ inner, opens, unknown, rest => inner.decode_of_notMem opens unknown rest
  | _, .via _ inner, opens, unknown, rest =>
    map_eq_error_iff.mpr (inner.decode_of_notMem opens unknown rest)
  | _, .choice type cases, opens, unknown, rest => by
    cases opens
    rw [Schema.decode]
    exact congrFun (cases.decode_of_notMem type unknown) rest

/-- After a tag, only choices inside are blamed. -/
theorem Schema.after_blames : {α : Type} → (schema : Schema α) →
    schema.opening? = some opening → tag ∈ opening.tags →
    (schema.decode.after tag).Blames opening.inside
  | _, .alias _ inner, opens, known => inner.after_blames opens known
  | _, .via iso inner, opens, known => (inner.after_blames opens known).map iso.make
  | _, .choice type cases, opens, known => by
    cases opens
    rw [after_decode_choice]
    exact (blames_law cases.choices).variants cases type known fun _ member => member

/-- After the tag of a payload, the payload is read as a part of its variant. -/
theorem Schema.decode_payload : {α : Type} → (schema : Schema α) →
    schema.opening? = some opening → {name : String} → {inner : SomeSchema} →
    (tag, name, inner) ∈ opening.payloads → {rest : Bytes} → {error : DecodeError} →
    (schema.decode (tag :: rest) = .error error ↔
      ∃ fault, inner.schema.decode rest = .error fault ∧
        error = fault.within (.named (opening.type ++ "::" ++ name ++ ".0")))
  | _, .alias _ inner, opens, _, _, member, _, _ => inner.decode_payload opens member
  | _, .via _ inner, opens, _, _, member, _, _ => by
    rw [Schema.decode, map_eq_error_iff]
    exact inner.decode_payload opens member
  | _, .choice type cases, opens, _, _, member, _, _ => by
    cases opens
    rw [Schema.decode]
    exact cases.decode_payload type member

end EnclaveChain.Scale
