import EnclaveChain.Proofs.Scale.Exact

/-!
# Signatures

A value of a choice among named types comes apart into the tags of the variants that were chosen
on the way down and the named values that were found there. A signature is what stays of that when
the values are forgotten and their layouts kept. A schema has a list of signatures, one for each
way through its variants, and its values are exactly the parts with one of these signatures
(`Schema.signature_mem`, `Schema.exists_dissect_eq`). So a table of signatures says all about the
wire format of a type: the tags, then the values in order.
-/
namespace EnclaveChain.Scale

/-- A layout of some type. -/
structure SomeSchema : Type 1 where
  /-- The type. -/
  {type : Type}
  /-- The layout. -/
  schema : Schema type

/-- A value of some type with its layout. -/
structure SomeValue : Type 1 where
  /-- The type. -/
  {type : Type}
  /-- The layout. -/
  schema : Schema type
  /-- The value. -/
  value : type

namespace SomeValue

/-- The layout of a value. -/
def layout (some : SomeValue) : SomeSchema := ⟨some.schema⟩

/-- The bytes of a value. -/
def encode (some : SomeValue) : Bytes := some.schema.encode some.value

/-- Whether all vectors in a value have fewer than `2 ^ 32` items. -/
def fits (some : SomeValue) : Bool := some.schema.fits some.value

end SomeValue

/-- A way through the variants of a type, with the layouts found at its end. -/
structure Signature : Type 1 where
  /-- The tags of the variants. -/
  tags : Bytes
  /-- The names and the layouts of the values. -/
  fields : List (String × SomeSchema)

namespace Signature

/-- A signature inside a variant. -/
def under (tag : UInt8) (signature : Signature) : Signature :=
  ⟨tag :: signature.tags, signature.fields⟩

end Signature

/-- A value taken apart. -/
structure Parts : Type 1 where
  /-- The tags of the variants. -/
  tags : Bytes
  /-- The names and the values. -/
  fields : List (String × SomeValue)

namespace Parts

/-- The parts of a value inside a variant. -/
def under (tag : UInt8) (parts : Parts) : Parts := ⟨tag :: parts.tags, parts.fields⟩

/-- The tags and the layouts of parts. -/
def signature (parts : Parts) : Signature :=
  ⟨parts.tags, parts.fields.map fun (name, value) => (name, value.layout)⟩

/-- The bytes of parts, the tags first. -/
def encode (parts : Parts) : Bytes := parts.tags ++ parts.fields.flatMap fun field => field.2.encode

/-- Whether all vectors in parts have fewer than `2 ^ 32` items. -/
def fits (parts : Parts) : Bool := parts.fields.all fun field => field.2.fits

end Parts

/-- The names and the layouts of named values. -/
def Fields.layouts : {α : Type} → Fields α → List (String × SomeSchema)
  | _, .last name only => [(name, ⟨only⟩)]
  | _, .field name first others => (name, ⟨first⟩) :: others.layouts

/-- Named values, each with its name. -/
def Fields.named : {α : Type} → Fields α → α → List (String × SomeValue)
  | _, .last name only, value => [(name, ⟨only, value⟩)]
  | _, .field name first others, (value, values) => (name, ⟨first, value⟩) :: others.named values

mutual

/-- The signatures of a schema; a value that is not taken apart is its own part, without a name. -/
def Schema.signatures : {α : Type} → Schema α → List Signature
  | _, .struct _ body => body.signatures
  | _, .choice _ cases => cases.signatures
  | _, .via _ inner => inner.signatures
  | _, schema => [⟨[], [("", ⟨schema⟩)]⟩]

/-- The signatures of a body. -/
def Body.signatures : {α : Type} → Body α → List Signature
  | _, .nothing => [⟨[], []⟩]
  | _, .payload inner => inner.signatures
  | _, .record fields => [⟨[], fields.layouts⟩]

/-- The signatures of variants. -/
def Variants.signatures : {tags : List UInt8} → {α : Type} → Variants tags α → List Signature
  | _, _, .none => []
  | _, _, .variant tag _ body others _ =>
    body.signatures.map (Signature.under tag) ++ others.signatures

end

mutual

/-- Takes a value apart. -/
def Schema.dissect : {α : Type} → Schema α → α → Parts
  | _, .struct _ body, value => body.dissect value
  | _, .choice _ cases, value => cases.dissect value
  | _, .via iso inner, value => inner.dissect (iso.parts value)
  | _, schema, value => ⟨[], [("", ⟨schema, value⟩)]⟩

/-- Takes a body apart. -/
def Body.dissect : {α : Type} → Body α → α → Parts
  | _, .nothing, _ => ⟨[], []⟩
  | _, .payload inner, value => inner.dissect value
  | _, .record fields, values => ⟨[], fields.named values⟩

/-- Takes a variant apart. -/
def Variants.dissect : {tags : List UInt8} → {α : Type} → Variants tags α → α → Parts
  | _, _, .none, value => nomatch value
  | _, _, .variant tag _ body _ _, .inl value => (body.dissect value).under tag
  | _, _, .variant _ _ _ others _, .inr value => others.dissect value

end

/-! ### The bytes of the parts -/

/-- Named values are written one after the other. -/
theorem Fields.encode_eq_flatMap : {α : Type} → (fields : Fields α) → (values : α) →
    fields.encode values = (fields.named values).flatMap fun field => field.2.encode
  | _, .last _ only, value => by simp [Fields.encode, Fields.named, SomeValue.encode]
  | _, .field _ first others, (value, values) => by
    simp [Fields.encode, Fields.named, SomeValue.encode, others.encode_eq_flatMap values]

/-- Named values fit when each of them does. -/
theorem Fields.fits_eq_all : {α : Type} → (fields : Fields α) → (values : α) →
    fields.fits values = (fields.named values).all fun field => field.2.fits
  | _, .last _ only, value => by simp [Fields.fits, Fields.named, SomeValue.fits]
  | _, .field _ first others, (value, values) => by
    simp [Fields.fits, Fields.named, SomeValue.fits, others.fits_eq_all values]

/-- A tag in front of parts stands in front of their bytes. -/
theorem Parts.encode_under (tag : UInt8) (parts : Parts) :
    (parts.under tag).encode = tag :: parts.encode := rfl

/-- A value that is its own part is written as that part. -/
theorem Parts.encode_single {α : Type} (schema : Schema α) (value : α) :
    Parts.encode ⟨[], [("", ⟨schema, value⟩)]⟩ = schema.encode value := by
  simp [Parts.encode, SomeValue.encode]

mutual

/-- The bytes of a value are those of its parts. -/
theorem Schema.encode_eq_dissect : {α : Type} → (schema : Schema α) → (value : α) →
    schema.encode value = (schema.dissect value).encode
  | _, .struct _ body, value => body.encode_eq_dissect value
  | _, .choice _ cases, value => cases.encode_eq_dissect value
  | _, .via iso inner, value => inner.encode_eq_dissect (iso.parts value)
  | _, .word _, _ | _, .compact _, _ | _, .bool, _ | _, .array _, _ | _, .bytes, _ | _, .list _, _
  | _, .option _, _ | _, .alias _ _, _ => (Parts.encode_single _ _).symm

/-- The bytes of a body are those of its parts. -/
theorem Body.encode_eq_dissect : {α : Type} → (body : Body α) → (value : α) →
    body.encode value = (body.dissect value).encode
  | _, .nothing, _ => rfl
  | _, .payload inner, value => inner.encode_eq_dissect value
  | _, .record fields, values => fields.encode_eq_flatMap values

/-- The bytes of a variant are those of its parts. -/
theorem Variants.encode_eq_dissect : {tags : List UInt8} → {α : Type} → (cases : Variants tags α) →
    (value : α) → cases.encode value = (cases.dissect value).encode
  | _, _, .none, value => nomatch value
  | _, _, .variant tag _ body _ _, .inl value => by
    rw [Variants.encode, Variants.dissect, Parts.encode_under, body.encode_eq_dissect]
  | _, _, .variant _ _ _ others _, .inr value => others.encode_eq_dissect value

end

/-- A value that is its own part fits when that part does. -/
theorem Parts.fits_single {α : Type} (schema : Schema α) (value : α) :
    Parts.fits ⟨[], [("", ⟨schema, value⟩)]⟩ = schema.fits value := by
  simp [Parts.fits, SomeValue.fits]

mutual

/-- A value fits when its parts do. -/
theorem Schema.fits_eq_dissect : {α : Type} → (schema : Schema α) → (value : α) →
    schema.fits value = (schema.dissect value).fits
  | _, .struct _ body, value => body.fits_eq_dissect value
  | _, .choice _ cases, value => cases.fits_eq_dissect value
  | _, .via iso inner, value => inner.fits_eq_dissect (iso.parts value)
  | _, .word _, _ | _, .compact _, _ | _, .bool, _ | _, .array _, _ | _, .bytes, _ | _, .list _, _
  | _, .option _, _ | _, .alias _ _, _ => (Parts.fits_single _ _).symm

/-- A body fits when its parts do. -/
theorem Body.fits_eq_dissect : {α : Type} → (body : Body α) → (value : α) →
    body.fits value = (body.dissect value).fits
  | _, .nothing, _ => rfl
  | _, .payload inner, value => inner.fits_eq_dissect value
  | _, .record fields, values => fields.fits_eq_all values

/-- A variant fits when its parts do. -/
theorem Variants.fits_eq_dissect : {tags : List UInt8} → {α : Type} → (cases : Variants tags α) →
    (value : α) → cases.fits value = (cases.dissect value).fits
  | _, _, .none, value => nomatch value
  | _, _, .variant _ _ body _ _, .inl value => body.fits_eq_dissect value
  | _, _, .variant _ _ _ others _, .inr value => others.fits_eq_dissect value

end

/-! ### The values of a signature -/

/-- Named values have the names and the layouts of the fields. -/
theorem Fields.layouts_named : {α : Type} → (fields : Fields α) → (values : α) →
    ((fields.named values).map fun (name, value) => (name, value.layout)) = fields.layouts
  | _, .last _ _, _ => rfl
  | _, .field _ _ others, (_, values) => by
    rw [Fields.named, List.map_cons, others.layouts_named values]
    rfl

/-- A value of a layout is a value of its type. -/
theorem SomeValue.exists_of_layout_eq {α : Type} {schema : Schema α} {some : SomeValue}
    (same : some.layout = ⟨schema⟩) : ∃ value, some = ⟨schema, value⟩ := by
  obtain ⟨own, value⟩ := some
  cases same
  exact ⟨value, rfl⟩

/-- Values with the names and the layouts of fields are named values of these fields. -/
theorem Fields.exists_named_eq : {α : Type} → (fields : Fields α) →
    (given : List (String × SomeValue)) →
    (given.map fun (name, value) => (name, value.layout)) = fields.layouts →
    ∃ values, fields.named values = given
  | _, .last name only, given, same => by
    obtain ⟨⟨own, found⟩, rfl, pair⟩ := List.map_eq_singleton_iff.mp same
    obtain ⟨rfl, layout⟩ := Prod.mk.injEq .. ▸ pair
    obtain ⟨value, rfl⟩ := SomeValue.exists_of_layout_eq layout
    exact ⟨value, rfl⟩
  | _, .field name first others, given, same => by
    obtain ⟨⟨own, found⟩, later, rfl, pair, rest⟩ := List.map_eq_cons_iff.mp same
    obtain ⟨rfl, layout⟩ := Prod.mk.injEq .. ▸ pair
    obtain ⟨value, rfl⟩ := SomeValue.exists_of_layout_eq layout
    obtain ⟨values, rfl⟩ := others.exists_named_eq later rest
    exact ⟨(value, values), rfl⟩

mutual

/-- The parts of a value have one of the signatures. -/
theorem Schema.signature_mem : {α : Type} → (schema : Schema α) → (value : α) →
    (schema.dissect value).signature ∈ schema.signatures
  | _, .struct _ body, value => body.signature_mem value
  | _, .choice _ cases, value => cases.signature_mem value
  | _, .via iso inner, value => inner.signature_mem (iso.parts value)
  | _, .word _, _ | _, .compact _, _ | _, .bool, _ | _, .array _, _ | _, .bytes, _ | _, .list _, _
  | _, .option _, _ | _, .alias _ _, _ => List.mem_singleton_self _

/-- The parts of a body have one of the signatures. -/
theorem Body.signature_mem : {α : Type} → (body : Body α) → (value : α) →
    (body.dissect value).signature ∈ body.signatures
  | _, .nothing, _ => List.mem_singleton_self _
  | _, .payload inner, value => inner.signature_mem value
  | _, .record fields, values => by
    rw [Body.signatures, ← fields.layouts_named values]
    exact List.mem_singleton_self _

/-- The parts of a variant have one of the signatures. -/
theorem Variants.signature_mem : {tags : List UInt8} → {α : Type} → (cases : Variants tags α) →
    (value : α) → (cases.dissect value).signature ∈ cases.signatures
  | _, _, .none, value => nomatch value
  | _, _, .variant _ _ body _ _, .inl value =>
    List.mem_append_left _ (List.mem_map_of_mem (body.signature_mem value))
  | _, _, .variant _ _ _ others _, .inr value =>
    List.mem_append_right _ (others.signature_mem value)

end

/-- Parts of one unnamed value of a layout come from that value. -/
theorem Parts.exists_of_single {α : Type} {schema : Schema α} {parts : Parts}
    (member : parts.signature ∈ [(⟨[], [("", ⟨schema⟩)]⟩ : Signature)]) :
    ∃ value, (⟨[], [("", ⟨schema, value⟩)]⟩ : Parts) = parts := by
  obtain ⟨tags, given⟩ := parts
  rw [List.mem_singleton, Parts.signature, Signature.mk.injEq] at member
  obtain ⟨rfl, same⟩ := member
  obtain ⟨value, rfl⟩ := (Fields.last "" schema).exists_named_eq given same
  exact ⟨value, rfl⟩

mutual

/-- Parts with one of the signatures are the parts of a value. -/
theorem Schema.exists_dissect_eq : {α : Type} → (schema : Schema α) → (parts : Parts) →
    parts.signature ∈ schema.signatures → ∃ value, schema.dissect value = parts
  | _, .struct _ body, parts, member => body.exists_dissect_eq parts member
  | _, .choice _ cases, parts, member => cases.exists_dissect_eq parts member
  | _, .via iso inner, parts, member => by
    obtain ⟨value, rfl⟩ := inner.exists_dissect_eq parts member
    exact ⟨iso.make value, by rw [Schema.dissect, iso.parts_make]⟩
  | _, .word _, _, member | _, .compact _, _, member | _, .bool, _, member
  | _, .array _, _, member | _, .bytes, _, member | _, .list _, _, member
  | _, .option _, _, member | _, .alias _ _, _, member => Parts.exists_of_single member

/-- Parts with one of the signatures are the parts of a body. -/
theorem Body.exists_dissect_eq : {α : Type} → (body : Body α) → (parts : Parts) →
    parts.signature ∈ body.signatures → ∃ value, body.dissect value = parts
  | _, .nothing, ⟨tags, given⟩, member => by
    rw [Body.signatures, List.mem_singleton, Parts.signature, Signature.mk.injEq,
      List.map_eq_nil_iff] at member
    obtain ⟨rfl, rfl⟩ := member
    exact ⟨(), rfl⟩
  | _, .payload inner, parts, member => inner.exists_dissect_eq parts member
  | _, .record fields, ⟨tags, given⟩, member => by
    rw [Body.signatures, List.mem_singleton, Parts.signature, Signature.mk.injEq] at member
    obtain ⟨rfl, same⟩ := member
    obtain ⟨values, rfl⟩ := fields.exists_named_eq given same
    exact ⟨values, rfl⟩

/-- Parts with one of the signatures are the parts of a variant. -/
theorem Variants.exists_dissect_eq : {tags : List UInt8} → {α : Type} →
    (cases : Variants tags α) → (parts : Parts) → parts.signature ∈ cases.signatures →
    ∃ value, cases.dissect value = parts
  | _, _, .none, _, member => nomatch member
  | _, _, .variant tag _ body others _, ⟨tags, given⟩, member => by
    rcases List.mem_append.mp member with inside | later
    · obtain ⟨inner, found, same⟩ := List.mem_map.mp inside
      rw [Parts.signature, Signature.under, Signature.mk.injEq] at same
      obtain ⟨rfl, layouts⟩ := same
      have below : (⟨inner.tags, given⟩ : Parts).signature = inner := by
        rw [Parts.signature, ← layouts]
      obtain ⟨value, apart⟩ := body.exists_dissect_eq ⟨inner.tags, given⟩ (below ▸ found)
      exact ⟨.inl value, by rw [Variants.dissect, apart, Parts.under]⟩
    · obtain ⟨value, apart⟩ := others.exists_dissect_eq _ later
      exact ⟨.inr value, by rw [Variants.dissect, apart]⟩

end

end EnclaveChain.Scale
