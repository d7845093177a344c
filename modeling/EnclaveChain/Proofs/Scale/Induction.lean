import EnclaveChain.Proofs.Scale.Fault
import EnclaveChain.Proofs.Scale.Reading

/-!
# Induction over decoders

The decoders of all layouts are made in a few ways: from those that read nothing, fail or cut a
number of bytes off, by going on after a first byte, and by the operations that join decoders. A
property that all of these keep is a `Decoder.Law`, and it holds of every layout
(`Decoder.Law.schema`). What the law asks of a failure may depend on the types that it blames,
which are then those of the choices in the layout.
-/
namespace EnclaveChain.Scale

namespace Decoder

variable {α β : Type}

/-- Reads nothing and comes to a value. -/
def done (value : α) : Decoder α := fun bytes => .ok (value, bytes)

/-- What is read after a first byte. -/
def after (decoder : Decoder α) (first : UInt8) : Decoder α := fun rest => decoder (first :: rest)

/-- A property of decoders that all ways to make them keep, if no variant is missing but of
blamable types. -/
structure Law (holds : (α : Type) → Decoder α → Prop) (blamable : String → Prop) : Prop where
  /-- It holds where nothing is read. -/
  done : ∀ {α : Type} (value : α), holds α (done value)
  /-- It holds where nothing can be read. -/
  fail : ∀ {α : Type} {cause : Cause},
    (∀ type, cause = .unknownVariant type → blamable type) → holds α (fail cause)
  /-- It holds of bytes of a known number. -/
  take : ∀ (count : Nat) {short : Cause}, short.isShort → holds Bytes (take count short)
  /-- It holds where a first byte is asked for if it holds after every byte. -/
  ofAfter : ∀ {α : Type} {decoder : Decoder α},
    (∃ error, decoder [] = .error error ∧ error.cause.isShort) →
    (∀ first, holds α (decoder.after first)) → holds α decoder
  /-- It does not depend on what a value is changed to. -/
  map : ∀ {α β : Type} {decoder : Decoder α} (change : α → β),
    holds α decoder → holds β (decoder.map change)
  /-- It can be seen on changed values that are still apart. -/
  ofMap : ∀ {α β : Type} {decoder : Decoder α} {change : α → β}, Function.Injective change →
    holds β (decoder.map change) → holds α decoder
  /-- It holds of two values if it holds of each. -/
  andThen : ∀ {α β : Type} {decoder : Decoder α} {next : α → Decoder β}, holds α decoder →
    (∀ value, holds β (next value)) → holds β (decoder.andThen next)
  /-- It does not depend on the name of a part. -/
  within : ∀ {α : Type} {decoder : Decoder α} (part : Part),
    holds α decoder → holds α (decoder.within part)

end Decoder

open Decoder

/-! ### What comes after a first byte -/

/-- After the first byte of a compact integer. -/
theorem Compact.after_decode (width : Nat) (first : UInt8) :
    (Compact.decode width).after first =
      match first.toNat % 4 with
      | 0 => done (first.toNat / 4)
      | 1 => shared width 1 (2 ^ 6) first
      | 2 => shared width 3 (2 ^ 14) first
      | _ => separate width (first.toNat / 4 + 4) := by
  funext rest
  rw [after, decode]
  generalize first.toNat % 4 = mode
  rcases mode with _ | _ | _ | mode <;> rfl

/-- A lower bound passes a number on or refuses it, and reads nothing. -/
theorem Compact.atLeast_eq (width least value : Nat) :
    atLeast width least value =
      if least ≤ value then done value else fail (.compactRange width) := by
  funext rest
  rw [atLeast]
  split <;> rfl

/-- After the byte of a truth value. -/
theorem after_decodeBool (first : UInt8) :
    decodeBool.after first =
      if first = 0 then done false else if first = 1 then done true else fail .boolByte := by
  funext rest
  rw [after, decodeBool]
  split
  · rfl
  · split <;> rfl

/-- After the first byte of an option. -/
theorem after_decodeOption {α : Type} (value : Decoder α) (first : UInt8) :
    (decodeOption value).after first =
      if first = 0 then done none
      else if first = 1 then (value.within .optionValue).map some
      else fail .optionByte := by
  funext rest
  rw [after, decodeOption]
  split
  · rfl
  · split <;> rfl

/-- After the tag of a choice. -/
theorem after_decode_choice {tags : List UInt8} {α : Type} (type : String)
    (cases : Variants tags α) (tag : UInt8) :
    (Schema.choice type cases).decode.after tag = cases.decode type tag := by
  funext rest
  rw [after, Schema.decode]

/-- A fixed number of bytes is cut off the front. -/
theorem map_decodeArray (size : Nat) :
    (decodeArray size).map FixedBytes.toList = take size .endOfData := by
  funext bytes
  rw [Decoder.map, take]
  generalize read : decodeArray size bytes = outcome
  rw [decodeArray] at read
  split at read
  · rename_i short
    cases read
    rw [short]
  · rename_i front rest found
    cases read
    simp only [found]

/-- A tag that no variant has is refused, and the choice is blamed. -/
theorem Variants.decode_of_notMem : {tags : List UInt8} → {α : Type} →
    (cases : Variants tags α) → (type : String) → {tag : UInt8} → tag ∉ tags →
    cases.decode type tag = fail (.unknownVariant type)
  | _, _, .none, _, _, _ => rfl
  | _, _, .variant own name body others _, type, tag, unknown => by
    rw [List.mem_cons, not_or] at unknown
    funext bytes
    rw [Variants.decode, if_neg unknown.1, others.decode_of_notMem type unknown.2]
    rfl

/-! ### The names of choices -/

mutual

/-- The names of the choices in a layout. -/
def Schema.choices : {α : Type} → Schema α → List String
  | _, .word _ => []
  | _, .compact _ => []
  | _, .bool => []
  | _, .array _ => []
  | _, .bytes => []
  | _, .list item => item.choices
  | _, .option value => value.choices
  | _, .alias _ inner => inner.choices
  | _, .struct _ body => body.choices
  | _, .choice type cases => type :: cases.choices
  | _, .via _ inner => inner.choices

/-- The names of the choices in a body. -/
def Body.choices : {α : Type} → Body α → List String
  | _, .nothing => []
  | _, .payload inner => inner.choices
  | _, .record fields => fields.choices

/-- The names of the choices in named values. -/
def Fields.choices : {α : Type} → Fields α → List String
  | _, .last _ only => only.choices
  | _, .field _ first others => first.choices ++ others.choices

/-- The names of the choices in variants. -/
def Variants.choices : {tags : List UInt8} → {α : Type} → Variants tags α → List String
  | _, _, .none => []
  | _, _, .variant _ _ body others _ => body.choices ++ others.choices

end

/-! ### Laws hold of all layouts -/

namespace Decoder.Law

section Plain

variable {holds : (α : Type) → Decoder α → Prop} {blamable : String → Prop}
  (law : Law holds blamable)

include law

/-- A law holds of a number of values. -/
theorem times {α : Type} {item : Decoder α} (held : holds α item) (count : Nat) :
    holds (List α) (item.times count) := by
  induction count with
  | zero => exact law.done []
  | succ count ih =>
    rw [times_succ]
    exact law.andThen held fun first => law.map _ ih

/-- A law holds of a failure that blames no type. -/
theorem failPlain {α : Type} {cause : Cause} (plain : ∀ type, cause ≠ .unknownVariant type) :
    holds α (Decoder.fail cause) :=
  law.fail fun type same => absurd same (plain type)

/-- A law holds of a number that is bounded from below. -/
theorem atLeast (width least value : Nat) : holds Nat (Compact.atLeast width least value) := by
  rw [Compact.atLeast_eq]
  split
  · exact law.done value
  · exact law.failPlain nofun

/-- A law holds of a compact integer. -/
theorem compact (width : Nat) : holds Nat (Compact.decode width) := by
  have bounded (count least : Nat) (number : Bytes → Nat) : holds Nat
      ((Decoder.take count .endOfData).andThen fun bytes =>
        Compact.atLeast width least (number bytes)) :=
    law.andThen (law.take count rfl) fun bytes => law.atLeast width least (number bytes)
  refine law.ofAfter ⟨_, rfl, rfl⟩ ?_
  intro first
  rw [Compact.after_decode]
  split
  · exact law.done _
  · exact bounded _ _ _
  · exact bounded _ _ _
  · unfold Compact.separate
    split
    · apply law.failPlain
      unfold Compact.tooWide
      split <;> simp
    · exact bounded _ _ _

/-- A law holds of a truth value. -/
theorem bool : holds Bool decodeBool := by
  refine law.ofAfter ⟨_, rfl, rfl⟩ ?_
  intro first
  rw [after_decodeBool]
  split
  · exact law.done _
  · split
    · exact law.done _
    · exact law.failPlain nofun

/-- A law holds of bytes whose number is part of their type. -/
theorem array (size : Nat) : holds (FixedBytes size) (decodeArray size) := by
  apply law.ofMap fun _ _ same => FixedBytes.ext same
  rw [map_decodeArray]
  exact law.take size rfl

/-- A law holds of an option if it holds of its value. -/
theorem option {α : Type} {value : Decoder α} (held : holds α value) :
    holds (Option α) (decodeOption value) := by
  refine law.ofAfter ⟨_, rfl, rfl⟩ ?_
  intro first
  rw [after_decodeOption]
  split
  · exact law.done _
  · split
    · exact law.map _ (law.within _ held)
    · exact law.failPlain nofun

end Plain

variable {holds : (α : Type) → Decoder α → Prop} {blamable : String → Prop}

mutual

/-- A law holds of a layout if all choices in it may be blamed. -/
theorem schema (law : Law holds blamable) : {α : Type} → (schema : Schema α) →
    (∀ type ∈ schema.choices, blamable type) → holds α schema.decode
  | _, .word width, _ => law.map _ (law.take width rfl)
  | _, .compact width, _ => law.map _ (law.compact width)
  | _, .bool, _ => law.bool
  | _, .array size, _ => law.array size
  | _, .bytes, _ => law.andThen (law.compact 4) fun count => law.take count rfl
  | _, .list item, named => law.andThen (law.compact 4) (law.times (law.schema item named))
  | _, .option value, named => law.option (law.schema value named)
  | _, .alias _ inner, named => law.schema inner named
  | _, .struct type body, named => law.body body type named
  | _, @Schema.choice tags _ type cases, named => by
    rw [Schema.choices, List.forall_mem_cons] at named
    refine law.ofAfter ⟨_, rfl, rfl⟩ ?_
    intro tag
    rw [after_decode_choice]
    -- The choice itself is blamed for an unknown tag only.
    by_cases known : tag ∈ tags
    · exact law.variants cases type known named.2
    · rw [cases.decode_of_notMem type known]
      apply law.fail
      rintro other same
      cases same
      exact named.1
  | _, .via iso inner, named => law.map iso.make (law.schema inner named)

/-- A law holds of a body. -/
theorem body (law : Law holds blamable) : {α : Type} → (body : Body α) → (owner : String) →
    (∀ type ∈ body.choices, blamable type) → holds α (body.decode owner)
  | _, .nothing, _, _ => law.done ()
  | _, .payload inner, _, named => law.within _ (law.schema inner named)
  | _, .record fields, owner, named => law.fields fields owner named

/-- A law holds of named values. -/
theorem fields (law : Law holds blamable) : {α : Type} → (fields : Fields α) →
    (owner : String) → (∀ type ∈ fields.choices, blamable type) → holds α (fields.decode owner)
  | _, .last _ only, _, named => law.within _ (law.schema only named)
  | _, .field name first others, owner, named => by
    rw [Fields.choices, List.forall_mem_append] at named
    have front := law.within (.named (owner ++ "::" ++ name)) (law.schema first named.1)
    exact law.andThen front fun value => law.map _ (law.fields others owner named.2)

/-- A law holds after a known tag, whether or not the choice itself may be blamed. -/
theorem variants (law : Law holds blamable) : {tags : List UInt8} → {α : Type} →
    (cases : Variants tags α) → (type : String) → {tag : UInt8} → tag ∈ tags →
    (∀ type ∈ cases.choices, blamable type) → holds α (cases.decode type tag)
  | _, _, .none, _, _, known, _ => nomatch known
  | _, _, .variant own name body others _, type, tag, known, named => by
    rw [Variants.choices, List.forall_mem_append] at named
    rw [Variants.decode]
    by_cases same : tag = own
    · rw [if_pos same]
      exact law.map Sum.inl (law.body body (type ++ "::" ++ name) named.1)
    · rw [if_neg same]
      have later := List.mem_of_ne_of_mem same known
      exact law.map Sum.inr (law.variants others type later named.2)

end

end Decoder.Law

end EnclaveChain.Scale
