import EnclaveChain.Scale.Compact

/-!
# Schemas

A schema says how the values of one type are laid out as bytes, and what the type and its parts
are called. It is data: its writer and its reader are functions by recursion on it, and so is
every other fact about the layout, so a law of all layouts is one induction over schemas. A type
of the domain gets its schema from plainer ones through an isomorphism. The tags of a choice are
part of its type, and two equal tags cannot be written down.
-/
namespace EnclaveChain.Scale

/-- Two types whose values correspond one to one. -/
structure Iso (α β : Type) where
  /-- The value with these parts. -/
  make : α → β
  /-- The parts of a value. -/
  parts : β → α
  /-- A value is made of its parts. -/
  make_parts : ∀ value, make (parts value) = value
  /-- The parts of a value are those it was made of. -/
  parts_make : ∀ value, parts (make value) = value

mutual

/-- A layout of the values of a type as bytes. -/
inductive Schema : Type → Type 1 where
  /-- An unsigned integer of a width in bytes, low byte first. -/
  | word (width : Nat) : Schema (BitVec (8 * width))
  /-- An unsigned integer of a width in bytes, in compact form. Narrower integers would need
  range checks of their own, and the first byte cannot count more bytes. -/
  | compact (width : Nat) {supported : 4 ≤ width ∧ width ≤ 67} : Schema (BitVec (8 * width))
  /-- A truth value, one byte. -/
  | bool : Schema Bool
  /-- A fixed number of bytes. -/
  | array (size : Nat) : Schema (FixedBytes size)
  /-- A byte vector: its length and its bytes. -/
  | bytes : Schema Bytes
  /-- A vector: its length and its items. -/
  | list {α : Type} (item : Schema α) : Schema (List α)
  /-- A value that may be absent. -/
  | option {α : Type} (value : Schema α) : Schema (Option α)
  /-- The same layout under another type name. -/
  | alias {α : Type} (type : String) (inner : Schema α) : Schema α
  /-- A value of a named type with one body. -/
  | struct {α : Type} (type : String) (body : Body α) : Schema α
  /-- A value of a named type with several bodies, told apart by their first byte. -/
  | choice {tags : List UInt8} {α : Type} (type : String) (cases : Variants tags α) : Schema α
  /-- The values of a type that corresponds to another one. -/
  | via {α β : Type} (iso : Iso α β) (inner : Schema α) : Schema β

/-- What a structure or a variant holds. -/
inductive Body : Type → Type 1 where
  /-- Nothing. -/
  | nothing : Body Unit
  /-- One value without a name. -/
  | payload {α : Type} (inner : Schema α) : Body α
  /-- Values with names. -/
  | record {α : Type} (fields : Fields α) : Body α

/-- One or more named values in order. -/
inductive Fields : Type → Type 1 where
  /-- The last value. -/
  | last {α : Type} (name : String) (value : Schema α) : Fields α
  /-- A value in front of others. -/
  | field {α β : Type} (name : String) (value : Schema α) (others : Fields β) : Fields (α × β)

/-- The variants of a choice, with the tags they have. -/
inductive Variants : List UInt8 → Type → Type 1 where
  /-- No variants. -/
  | none : Variants [] Empty
  /-- A variant in front of others that do not have its tag. -/
  | variant {tags : List UInt8} {α β : Type} (tag : UInt8) (name : String) (body : Body α)
      (others : Variants tags β) (fresh : tag ∉ tags := by decide) : Variants (tag :: tags) (α ⊕ β)

end

mutual

/-- The bytes of a value. -/
def Schema.encode : {α : Type} → Schema α → α → Bytes
  | _, .word width, value => Bytes.littleEndian width value.toNat
  | _, .compact _, value => Compact.encode value.toNat
  | _, .bool, value => [if value then 1 else 0]
  | _, .array _, value => value.toList
  | _, .bytes, value => Compact.encode value.length ++ value
  | _, .list item, values => Compact.encode values.length ++ values.flatMap item.encode
  | _, .option _, .none => [0]
  | _, .option inner, .some value => 1 :: inner.encode value
  | _, .alias _ inner, value => inner.encode value
  | _, .struct _ body, value => body.encode value
  | _, .choice _ cases, value => cases.encode value
  | _, .via iso inner, value => inner.encode (iso.parts value)

/-- The bytes of a body. -/
def Body.encode : {α : Type} → Body α → α → Bytes
  | _, .nothing, _ => []
  | _, .payload inner, value => inner.encode value
  | _, .record fields, values => fields.encode values

/-- The bytes of named values, one after the other. -/
def Fields.encode : {α : Type} → Fields α → α → Bytes
  | _, .last _ only, value => only.encode value
  | _, .field _ first others, (value, values) => first.encode value ++ others.encode values

/-- The bytes of a variant, its tag first. -/
def Variants.encode : {tags : List UInt8} → {α : Type} → Variants tags α → α → Bytes
  | _, _, .none, value => nomatch value
  | _, _, .variant tag _ body _ _, .inl value => tag :: body.encode value
  | _, _, .variant _ _ _ others _, .inr value => others.encode value

end

/-- The truth value of a byte. -/
def decodeBool : Decoder Bool
  | [] => .error (.bare .endOfData)
  | byte :: rest =>
    if byte = 0 then .ok (false, rest)
    else if byte = 1 then .ok (true, rest)
    else .error (.bare .boolByte)

/-- An option, whose value is read by the given decoder. -/
def decodeOption {α : Type} (value : Decoder α) : Decoder (Option α)
  | [] => .error ⟨[.optionByte], .endOfData⟩
  | byte :: rest =>
    if byte = 0 then .ok (none, rest)
    else if byte = 1 then ((value.within .optionValue).map some) rest
    else .error (.bare .optionByte)

/-- Bytes of a known number. -/
def decodeArray (size : Nat) : Decoder (FixedBytes size) := fun bytes =>
  match found : Bytes.splitFront? size bytes with
  | none => .error (.bare .endOfData)
  | some (front, rest) => .ok (⟨front, (Bytes.append_of_splitFront? found).2⟩, rest)

mutual

/-- Reads a value. -/
def Schema.decode : {α : Type} → Schema α → Decoder α
  | _, .word width =>
    (Decoder.take width .endOfData).map fun bytes => BitVec.ofNat _ (Bytes.ofLittleEndian bytes)
  | _, .compact width => (Compact.decode width).map fun value => BitVec.ofNat _ value
  | _, .bool => decodeBool
  | _, .array size => decodeArray size
  | _, .bytes => (Compact.decode 4).andThen fun count => Decoder.take count .endOfVector
  | _, .list item => (Compact.decode 4).andThen fun count => Decoder.times item.decode count
  | _, .option value => decodeOption value.decode
  | _, .alias _ inner => inner.decode
  | _, .struct type body => body.decode type
  | _, .choice type cases => fun bytes =>
    match bytes with
    | [] => .error ⟨[.variantByte type], .endOfData⟩
    | tag :: rest => cases.decode type tag rest
  | _, .via iso inner => inner.decode.map iso.make

/-- Reads a body; a payload is part `0` of its owner. -/
def Body.decode : {α : Type} → Body α → String → Decoder α
  | _, .nothing, _ => fun bytes => .ok ((), bytes)
  | _, .payload inner, owner => inner.decode.within (.named (owner ++ ".0"))
  | _, .record fields, owner => fields.decode owner

/-- Reads named values, each a part of its owner. -/
def Fields.decode : {α : Type} → Fields α → String → Decoder α
  | _, .last name only, owner => only.decode.within (.named (owner ++ "::" ++ name))
  | _, .field name first others, owner =>
    (first.decode.within (.named (owner ++ "::" ++ name))).andThen fun value =>
      (others.decode owner).map fun values => (value, values)

/-- Reads the variant that has the tag. -/
def Variants.decode :
    {tags : List UInt8} → {α : Type} → Variants tags α → String → UInt8 → Decoder α
  | _, _, .none, type, _ => Decoder.fail (.unknownVariant type)
  | _, _, .variant own name body others _, type, tag =>
    if tag = own then (body.decode (type ++ "::" ++ name)).map .inl
    else (others.decode type tag).map .inr

end

namespace Schema

/-- Reads a value that must be all of the input. -/
def decodeAll {α : Type} (schema : Schema α) : Bytes → Except DecodeError α := schema.decode.all

/-- The name of the type that a schema lays out. -/
def typeName : {α : Type} → Schema α → String
  | _, .word width => unsignedName width
  | _, .compact width => "Compact<" ++ unsignedName width ++ ">"
  | _, .bool => "bool"
  | _, .array size => "[u8; " ++ toString size ++ "]"
  | _, .bytes => "Vec<u8>"
  | _, .list item => "Vec<" ++ item.typeName ++ ">"
  | _, .option value => "Option<" ++ value.typeName ++ ">"
  | _, .alias type _ => type
  | _, .struct type _ => type
  | _, .choice type _ => type
  | _, .via _ inner => inner.typeName

/-- A structure by the values that it is put together from. -/
abbrev record {α β : Type} (type : String) (make : α → β) (parts : β → α) (fields : Fields α)
    (make_parts : ∀ value, make (parts value) = value := by intro value; rfl)
    (parts_make : ∀ value, parts (make value) = value := by intro value; rfl) : Schema β :=
  .via ⟨make, parts, make_parts, parts_make⟩ (.struct type (.record fields))

/-- A byte. -/
def u8 : Schema UInt8 := .via ⟨UInt8.ofBitVec, UInt8.toBitVec, fun _ => rfl, fun _ => rfl⟩ (.word 1)

/-- A 16-bit integer. -/
def u16 : Schema UInt16 :=
  .via ⟨UInt16.ofBitVec, UInt16.toBitVec, fun _ => rfl, fun _ => rfl⟩ (.word 2)

/-- A 32-bit integer. -/
def u32 : Schema UInt32 :=
  .via ⟨UInt32.ofBitVec, UInt32.toBitVec, fun _ => rfl, fun _ => rfl⟩ (.word 4)

/-- A 64-bit integer. -/
def u64 : Schema UInt64 :=
  .via ⟨UInt64.ofBitVec, UInt64.toBitVec, fun _ => rfl, fun _ => rfl⟩ (.word 8)

/-- A 128-bit integer. -/
def u128 : Schema (BitVec 128) := .word 16

/-- A 64-bit integer in compact form. -/
def compact64 : Schema UInt64 :=
  .via ⟨UInt64.ofBitVec, UInt64.toBitVec, fun _ => rfl, fun _ => rfl⟩ <|
    @Schema.compact 8 (by decide)

/-- A 128-bit integer in compact form. -/
def compact128 : Schema (BitVec 128) := @Schema.compact 16 (by decide)

end Schema

namespace Variants

/-- Whether a tag is none of those that are in use. -/
def isFresh (tag : UInt8) (tags : List UInt8) : Bool := tag ∉ tags

/-- A fresh tag is not in use. -/
theorem not_mem_of_isFresh {tag : UInt8} {tags : List UInt8} (fresh : isFresh tag tags) :
    tag ∉ tags := of_decide_eq_true fresh

-- A layout is written with known tags, so that each is fresh is the same computation to `true`.

/-- A variant that holds nothing. -/
abbrev plain {tags : List UInt8} {β : Type} (tag : UInt8) (name : String)
    (others : Variants tags β) (fresh : isFresh tag tags := by exact (rfl : true = true)) :
    Variants (tag :: tags) (Unit ⊕ β) :=
  .variant tag name .nothing others (not_mem_of_isFresh fresh)

/-- A variant that holds one value without a name. -/
abbrev payload {tags : List UInt8} {α β : Type} (tag : UInt8) (name : String) (inner : Schema α)
    (others : Variants tags β) (fresh : isFresh tag tags := by exact (rfl : true = true)) :
    Variants (tag :: tags) (α ⊕ β) :=
  .variant tag name (.payload inner) others (not_mem_of_isFresh fresh)

/-- A variant that holds named values. -/
abbrev record {tags : List UInt8} {α β : Type} (tag : UInt8) (name : String) (fields : Fields α)
    (others : Variants tags β) (fresh : isFresh tag tags := by exact (rfl : true = true)) :
    Variants (tag :: tags) (α ⊕ β) :=
  .variant tag name (.record fields) others (not_mem_of_isFresh fresh)

end Variants

end EnclaveChain.Scale
