import EnclaveChain.Proofs.Scale.Exact
import Mathlib.Algebra.GroupWithZero.Nat

/-!
# Items of vectors and the bytes that hold them

The items of all vectors in a value are counted, those of vectors inside items too, and compared
with the bytes of the value. Most values take more bytes than they have items: an integer takes
bytes and has no items, and a vector takes a byte for its length. What a layout spares in this way
is computed from it alone (`Schema.spare`). It is enough to pay for the items of a vector when each
of them spares a byte, and then no byte string is read as a value with more items than bytes
(`Schema.itemCount_le_of_decode`).
-/
namespace EnclaveChain.Scale

mutual

/-- The number of items of all vectors in a value, those of vectors inside items included. A byte
of a byte vector is an item. -/
def Schema.itemCount : {α : Type} → Schema α → α → Nat
  | _, .word _, _ => 0
  | _, .compact _, _ => 0
  | _, .bool, _ => 0
  | _, .array _, _ => 0
  | _, .bytes, value => value.length
  | _, .list item, values => values.length + (values.map item.itemCount).sum
  | _, .option _, none => 0
  | _, .option inner, some value => inner.itemCount value
  | _, .alias _ inner, value => inner.itemCount value
  | _, .struct _ body, value => body.itemCount value
  | _, .choice _ cases, value => cases.itemCount value
  | _, .via iso inner, value => inner.itemCount (iso.parts value)

/-- The number of items in a body. -/
def Body.itemCount : {α : Type} → Body α → α → Nat
  | _, .nothing, _ => 0
  | _, .payload inner, value => inner.itemCount value
  | _, .record fields, values => fields.itemCount values

/-- The number of items in named values. -/
def Fields.itemCount : {α : Type} → Fields α → α → Nat
  | _, .last _ only, value => only.itemCount value
  | _, .field _ first others, (value, values) => first.itemCount value + others.itemCount values

/-- The number of items in a variant. -/
def Variants.itemCount : {tags : List UInt8} → {α : Type} → Variants tags α → α → Nat
  | _, _, .none, value => nomatch value
  | _, _, .variant _ _ body _ _, .inl value => body.itemCount value
  | _, _, .variant _ _ _ others _, .inr value => others.itemCount value

end

mutual

/-- Bytes that a value takes at least beyond one for each of its items. -/
def Schema.spare : {α : Type} → Schema α → Nat
  | _, .word width => width
  | _, .compact _ => 1
  | _, .bool => 1
  | _, .array size => size
  | _, .bytes => 1
  | _, .list _ => 1
  | _, .option _ => 1
  | _, .alias _ inner => inner.spare
  | _, .struct _ body => body.spare
  | _, .choice _ cases => 1 + cases.spares.min?.getD 0
  | _, .via _ inner => inner.spare

/-- What a body spares. -/
def Body.spare : {α : Type} → Body α → Nat
  | _, .nothing => 0
  | _, .payload inner => inner.spare
  | _, .record fields => fields.spare

/-- What named values spare together. -/
def Fields.spare : {α : Type} → Fields α → Nat
  | _, .last _ only => only.spare
  | _, .field _ first others => first.spare + others.spare

/-- What each variant spares behind its tag. -/
def Variants.spares : {tags : List UInt8} → {α : Type} → Variants tags α → List Nat
  | _, _, .none => []
  | _, _, .variant _ _ body others _ => body.spare :: others.spares

end

mutual

/-- Whether each item of each vector inside spares a byte. -/
def Schema.paysForItems : {α : Type} → Schema α → Bool
  | _, .word _ => true
  | _, .compact _ => true
  | _, .bool => true
  | _, .array _ => true
  | _, .bytes => true
  | _, .list item => 0 < item.spare && item.paysForItems
  | _, .option value => value.paysForItems
  | _, .alias _ inner => inner.paysForItems
  | _, .struct _ body => body.paysForItems
  | _, .choice _ cases => cases.paysForItems
  | _, .via _ inner => inner.paysForItems

/-- Whether each item of each vector inside a body spares a byte. -/
def Body.paysForItems : {α : Type} → Body α → Bool
  | _, .nothing => true
  | _, .payload inner => inner.paysForItems
  | _, .record fields => fields.paysForItems

/-- Whether each item of each vector inside named values spares a byte. -/
def Fields.paysForItems : {α : Type} → Fields α → Bool
  | _, .last _ only => only.paysForItems
  | _, .field _ first others => first.paysForItems && others.paysForItems

/-- Whether each item of each vector inside variants spares a byte. -/
def Variants.paysForItems : {tags : List UInt8} → {α : Type} → Variants tags α → Bool
  | _, _, .none => true
  | _, _, .variant _ _ body others _ => body.paysForItems && others.paysForItems

end

/-! ### Items of one vector -/

/-- A compact integer takes a byte. -/
theorem Compact.length_encode_pos (value : Nat) : 0 < (encode value).length := by
  unfold encode
  split
  · simp
  · split
    · simp
    · split <;> simp

/-- Items that spare a byte each pay for themselves and for the items inside them. -/
theorem length_add_sum_le_length_flatMap {α : Type} {count : α → Nat} {encode : α → Bytes}
    (pays : ∀ value, count value + 1 ≤ (encode value).length) (values : List α) :
    values.length + (values.map count).sum ≤ (values.flatMap encode).length := by
  induction values with
  | nil => exact Nat.le_refl 0
  | cons value values ih =>
    have first := pays value
    simp only [List.length_cons, List.map_cons, List.sum_cons, List.flatMap_cons,
      List.length_append]
    omega

/-! ### Items of a value -/

mutual

/-- A value takes a byte for each of its items and the bytes that its layout spares. -/
theorem Schema.itemCount_add_spare_le : {α : Type} → (schema : Schema α) →
    schema.paysForItems → (value : α) →
    schema.itemCount value + schema.spare ≤ (schema.encode value).length
  | _, .word width, _, value => by simp [Schema.itemCount, Schema.spare, Schema.encode]
  | _, .compact _, _, value => by
    have taken := Compact.length_encode_pos value.toNat
    rw [Schema.itemCount, Schema.spare, Schema.encode]
    omega
  | _, .bool, _, value => by simp [Schema.itemCount, Schema.spare, Schema.encode]
  | _, .array _, _, value => by
    simp [Schema.itemCount, Schema.spare, Schema.encode, value.length_eq]
  | _, .bytes, _, value => by
    have taken := Compact.length_encode_pos value.length
    rw [Schema.itemCount, Schema.spare, Schema.encode, List.length_append]
    omega
  | _, .list item, pays, values => by
    rw [Schema.paysForItems, Bool.and_eq_true, decide_eq_true_eq] at pays
    have each (value) : item.itemCount value + 1 ≤ (item.encode value).length := by
      have bound := item.itemCount_add_spare_le pays.2 value
      omega
    have items := length_add_sum_le_length_flatMap each values
    have taken := Compact.length_encode_pos values.length
    rw [Schema.itemCount, Schema.spare, Schema.encode, List.length_append]
    omega
  | _, .option _, _, none => by simp [Schema.itemCount, Schema.spare, Schema.encode]
  | _, .option inner, pays, some value => by
    have bound := inner.itemCount_add_spare_le pays value
    rw [Schema.itemCount, Schema.spare, Schema.encode, List.length_cons]
    omega
  | _, .alias _ inner, pays, value => inner.itemCount_add_spare_le pays value
  | _, .struct _ body, pays, value => body.itemCount_add_spare_le pays value
  | _, .choice _ cases, pays, value => by
    obtain ⟨spare, member, bound⟩ := cases.itemCount_add_spare_lt pays value
    -- The layout counts on the least that a variant spares; this one spares as much or more.
    have least : cases.spares.min?.getD 0 ≤ spare := List.min?_getD_le_of_mem member
    rw [Schema.itemCount, Schema.spare, Schema.encode]
    omega
  | _, .via iso inner, pays, value => inner.itemCount_add_spare_le pays (iso.parts value)

/-- So does a body. -/
theorem Body.itemCount_add_spare_le : {α : Type} → (body : Body α) → body.paysForItems →
    (value : α) → body.itemCount value + body.spare ≤ (body.encode value).length
  | _, .nothing, _, _ => Nat.le_refl 0
  | _, .payload inner, pays, value => inner.itemCount_add_spare_le pays value
  | _, .record fields, pays, values => fields.itemCount_add_spare_le pays values

/-- So do named values. -/
theorem Fields.itemCount_add_spare_le : {α : Type} → (fields : Fields α) →
    fields.paysForItems → (values : α) →
    fields.itemCount values + fields.spare ≤ (fields.encode values).length
  | _, .last _ only, pays, value => only.itemCount_add_spare_le pays value
  | _, .field _ first others, pays, (value, values) => by
    rw [Fields.paysForItems, Bool.and_eq_true] at pays
    have front := first.itemCount_add_spare_le pays.1 value
    have back := others.itemCount_add_spare_le pays.2 values
    rw [Fields.itemCount, Fields.spare, Fields.encode, List.length_append]
    omega

/-- A variant takes a byte more, its tag. -/
theorem Variants.itemCount_add_spare_lt : {tags : List UInt8} → {α : Type} →
    (cases : Variants tags α) → cases.paysForItems → (value : α) →
    ∃ spare ∈ cases.spares, cases.itemCount value + spare < (cases.encode value).length
  | _, _, .none, _, value => nomatch value
  | _, _, .variant _ _ body others _, pays, .inl value => by
    rw [Variants.paysForItems, Bool.and_eq_true] at pays
    refine ⟨body.spare, List.mem_cons_self, ?_⟩
    rw [Variants.itemCount, Variants.encode, List.length_cons]
    exact Nat.lt_succ_of_le (body.itemCount_add_spare_le pays.1 value)
  | _, _, .variant _ _ body others _, pays, .inr value => by
    rw [Variants.paysForItems, Bool.and_eq_true] at pays
    obtain ⟨spare, member, bound⟩ := others.itemCount_add_spare_lt pays.2 value
    refine ⟨spare, List.mem_cons_of_mem _ member, ?_⟩
    rw [Variants.itemCount, Variants.encode]
    exact bound

end

/-! ### Items of what is read -/

/-- What is read has at most as many items as bytes were read, less those that the layout spares. -/
theorem Schema.itemCount_le_of_decode {α : Type} {schema : Schema α} (pays : schema.paysForItems)
    {bytes rest : Bytes} {value : α} (decoded : schema.decode bytes = .ok (value, rest)) :
    schema.itemCount value + schema.spare + rest.length ≤ bytes.length := by
  have bound := schema.itemCount_add_spare_le pays value
  rw [schema.canonical bytes value rest decoded, List.length_append]
  omega

end EnclaveChain.Scale
