import EnclaveChain.Proofs.Json.Record
import EnclaveChain.Proofs.Text.Hex
import EnclaveChain.Registry.Document
import Mathlib.Data.List.Forall2
import Mathlib.Data.Nat.Digits.Defs

/-!
# What trees denote

Which value a tree denotes is a relation, and it is put together without a reader: strings denote
texts, numerals that are plain digits denote numbers, arrays denote lists, and a record is denoted
field by field as a table says (`RecordField`). A reader is faithful when it accepts exactly the
trees that denote something, with the value that they denote. Each way to put readers together keeps
that, so a record whose shape follows a table is read as the table says (`faithful_record`).
-/
namespace EnclaveChain.Json

variable {α β π ρ : Type}

/-! ### Values -/

namespace Tree

/-- A string denotes its text. -/
def DenotesString (tree : Tree) (text : String) : Prop := tree = .ofString text

/-- A number of nothing but digits denotes a natural number of so many bits. -/
def DenotesNatural (bits : Nat) (tree : Tree) (value : Nat) : Prop :=
  value < 2 ^ bits ∧ ∃ digits, tree = .number ⟨false, digits, none, none⟩ ∧
    value = Nat.ofDigits 10 digits.reverse

/-- A number denotes a byte. -/
def DenotesByte (tree : Tree) (byte : UInt8) : Prop := tree.DenotesNatural 8 byte.toNat

/-- An array denotes the list of what its items denote. -/
def DenotesList (item : Tree → α → Prop) (tree : Tree) (values : List α) : Prop :=
  ∃ items, tree = .array items ∧ List.Forall₂ item items values

/-- A name denotes what has it, alone or as the only key of an object with the value null. -/
def DenotesName (nameOf : α → String) (tree : Tree) (value : α) : Prop :=
  tree = .ofString (nameOf value) ∨ tree = .ofFields [(nameOf value, .null)]

/-- A string of hexadecimal digits denotes bytes. -/
def DenotesBytes (tree : Tree) (bytes : Bytes) : Prop :=
  ∃ text, tree = .ofString text ∧ Hex.SpelledBy bytes text

end Tree

/-! ### Records -/

/-- A field of a record: its name, which trees stand for what the record has there, and which
records may leave it out. -/
structure RecordField (ρ : Type) where
  /-- Name. -/
  name : String
  /-- Whether a tree stands for what a record has. -/
  Given : Tree → ρ → Prop
  /-- Whether a record may leave it out. -/
  Absent : ρ → Prop

namespace RecordField

/-- A field that must be given. -/
def required (name : String) (denotes : Tree → α → Prop) (part : ρ → α) : RecordField ρ where
  name := name
  Given tree record := denotes tree (part record)
  Absent _ := False

/-- A field that may be left out when it is empty. -/
def orEmpty (name : String) (denotes : Tree → List α → Prop) (part : ρ → List α) :
    RecordField ρ where
  name := name
  Given tree record := denotes tree (part record)
  Absent record := part record = []

/-- Whether what is given for a field, or that nothing is, fits a record. -/
def Holds (field : RecordField ρ) (given : String → Option Tree) (record : ρ) : Prop :=
  match given field.name with
  | some tree => field.Given tree record
  | none => field.Absent record

end RecordField

/-- A tree denotes a record when it gives the fields of the record. -/
def Tree.DenotesRecord (fields : List (RecordField ρ)) (tree : Tree) (record : ρ) : Prop :=
  ∃ given, tree.Gives (fields.map RecordField.name) given ∧
    ∀ field ∈ fields, field.Holds given record

/-! ### Null -/

/-- Whether null stands for nothing that a field has. -/
def RefuseNull (fields : List (RecordField ρ)) : Prop :=
  ∀ field ∈ fields, ∀ record, ¬ field.Given .null record

namespace Tree

@[simp]
theorem not_denotesString_null (text : String) : ¬ null.DenotesString text := nofun

@[simp]
theorem not_denotesNatural_null (bits value : Nat) : ¬ null.DenotesNatural bits value := nofun

@[simp]
theorem not_denotesByte_null (byte : UInt8) : ¬ null.DenotesByte byte := nofun

@[simp]
theorem not_denotesList_null (item : Tree → α → Prop) (values : List α) :
    ¬ null.DenotesList item values := nofun

@[simp]
theorem not_denotesName_null (nameOf : α → String) (value : α) :
    ¬ null.DenotesName nameOf value := nofun

@[simp]
theorem not_denotesBytes_null (bytes : Bytes) : ¬ null.DenotesBytes bytes := nofun

end Tree

/-! ### Faithful readers -/

/-- Whether a reader accepts the trees that denote something, each as what it denotes. -/
def Faithful (read : Tree → Reading α) (denotes : Tree → α → Prop) : Prop :=
  ∀ tree, tree.isWhole = true → ∀ value, read tree = .ok value ↔ denotes tree value

/-- Strings are read faithfully. -/
theorem faithful_readString : Faithful readString Tree.DenotesString := by
  intro tree _ text
  match tree with
  | .string (some other) => simp [readString, Tree.DenotesString, Tree.ofString]
  | .string none | .null | .bool _ | .number _ | .array _ | .object _ | .broken =>
    simp [readString, Tree.DenotesString, Tree.ofString, unexpected_ne_ok]

/-- Digits spell a number from the last one on. -/
theorem ofDigits_eq (digits : List Nat) : ofDigits digits = Nat.ofDigits 10 digits.reverse := by
  rw [Nat.ofDigits_eq_foldr, List.foldr_reverse, ofDigits]
  congr 1
  funext value digit
  exact Nat.add_comm (10 * value) digit

/-- A magnitude is no natural number. -/
theorem Numeral.toReal_ne_natural (numeral : Numeral) (value : Nat) :
    numeral.toReal ≠ .natural value := by
  simp only [Numeral.toReal]
  split <;> exact nofun

/-- Only digits are a natural number. -/
theorem Numeral.value_eq_natural_iff (numeral : Numeral) (value : Nat) :
    numeral.value = .natural value ↔ numeral = ⟨false, numeral.whole, none, none⟩ ∧
      value = ofDigits numeral.whole ∧ value ≤ maxWord := by
  obtain ⟨negative, whole, fraction, exponent⟩ := numeral
  match fraction, exponent with
  | none, none =>
    simp only [Numeral.value]
    rcases Nat.lt_or_ge maxWord (ofDigits whole) with large | small
    · have beyond : ¬ (value = ofDigits whole ∧ value ≤ maxWord) := by omega
      simp [large, beyond, Numeral.toReal_ne_natural]
    · rw [if_neg (Nat.not_lt.mpr small)]
      cases negative with
      | true => rw [if_pos rfl]; split <;> simp
      | false =>
        simp only [Bool.false_eq_true, if_false, true_and, NumberValue.natural.injEq]
        omega
  | some _, _ | none, some _ => simp [Numeral.value, Numeral.toReal_ne_natural]

/-- Nothing is read from a tree that is out of range. -/
theorem outOfRange_ne_ok (tree : Tree) (expected : String) (value : α) :
    outOfRange tree expected ≠ .ok value := by
  unfold outOfRange
  split <;> exact nofun

/-- A number is read when its value is in range. -/
theorem readNatural_number (bits : Nat) (numeral : Numeral) (value : Nat) :
    readNatural bits (.number numeral) = .ok value ↔
      numeral.value = .natural value ∧ value < 2 ^ bits := by
  cases found : numeral.value with
  | natural other =>
    simp only [readNatural, found, NumberValue.natural.injEq]
    split
    · simp only [Except.ok.injEq]
      omega
    · simp only [outOfRange_ne_ok, false_iff]
      omega
  | negative _ => simp [readNatural, found, outOfRange_ne_ok]
  | real _ _ | tooLarge => simp [readNatural, found, unexpected_ne_ok]

/-- Natural numbers are read faithfully. -/
theorem faithful_readNatural {bits : Nat} (word : bits ≤ 64) :
    Faithful (readNatural bits) (Tree.DenotesNatural bits) := by
  intro tree _ value
  have fits : 2 ^ bits ≤ maxWord + 1 := Nat.pow_le_pow_right (by decide) word
  match tree with
  | .number numeral =>
    rw [readNatural_number, Numeral.value_eq_natural_iff, Tree.DenotesNatural]
    constructor
    · rintro ⟨⟨plain, spelled, -⟩, bound⟩
      exact ⟨bound, numeral.whole, by rw [← plain], by rw [spelled, ofDigits_eq]⟩
    · rintro ⟨bound, digits, plain, spelled⟩
      cases plain
      exact ⟨⟨rfl, by rw [spelled, ofDigits_eq], by omega⟩, bound⟩
  | .string _ | .null | .bool _ | .array _ | .object _ | .broken =>
    simp [readNatural, Tree.DenotesNatural, unexpected_ne_ok]

/-- Numbers are read in range. -/
theorem lt_of_readNatural {bits : Nat} {tree : Tree} {value : Nat}
    (read : readNatural bits tree = .ok value) : value < 2 ^ bits := by
  match tree with
  | .number numeral => exact ((readNatural_number bits numeral value).mp read).2
  | .string _ | .null | .bool _ | .array _ | .object _ | .broken =>
    simp [readNatural, unexpected_ne_ok] at read

/-- Bytes are read faithfully. -/
theorem faithful_readByte : Faithful readByte Tree.DenotesByte := by
  intro tree whole byte
  rw [Tree.DenotesByte, ← faithful_readNatural (by decide) tree whole, readByte]
  cases found : readNatural 8 tree with
  | error fault => simp [Except.map]
  | ok value =>
    have bound : value < 256 := lt_of_readNatural found
    simp only [Except.map, Except.ok.injEq]
    constructor
    · rintro rfl
      exact (UInt8.toNat_ofNat_of_lt' bound).symm
    · rintro rfl
      exact UInt8.ofNat_toNat

/-- The items of an array that is JSON to its end are. -/
theorem isWhole_of_areWhole {items : List Tree} (whole : areWhole items = true) :
    ∀ item ∈ items, item.isWhole = true := by
  induction items with
  | nil => nofun
  | cons first items ih =>
    obtain ⟨wholeFirst, wholeItems⟩ := Bool.and_eq_true_iff.mp whole
    exact List.forall_mem_cons.mpr ⟨wholeFirst, ih wholeItems⟩

/-- Items are read faithfully, one for one. -/
theorem readItems_eq_ok_iff {read : Tree → Reading α} {denotes : Tree → α → Prop}
    (faithful : Faithful read denotes) {items : List Tree} (whole : areWhole items = true)
    (values : List α) :
    readItems read items = .ok values ↔ List.Forall₂ denotes items values := by
  induction items generalizing values with
  | nil => simp [readItems, eq_comm]
  | cons item items ih =>
    obtain ⟨wholeItem, wholeItems⟩ := Bool.and_eq_true_iff.mp whole
    have others := ih wholeItems
    rw [readItems]
    cases values with
    | nil =>
      have mismatched : ¬ List.Forall₂ denotes (item :: items) [] := nofun
      rw [iff_false_right mismatched]
      cases read item with
      | error fault => simp
      | ok value => cases readItems read items <;> simp
    | cons value values =>
      rw [List.forall₂_cons, ← faithful item wholeItem, ← others]
      cases first : read item with
      | error fault => simp
      | ok value' => cases readItems read items <;> simp

/-- Lists are read faithfully when their items are. -/
theorem faithful_readList {read : Tree → Reading α} {denotes : Tree → α → Prop}
    (faithful : Faithful read denotes) :
    Faithful (readList read) (Tree.DenotesList denotes) := by
  intro tree whole values
  match tree with
  | .array items =>
    rw [readList, readItems_eq_ok_iff faithful whole, Tree.DenotesList]
    exact ⟨fun all => ⟨items, rfl, all⟩, fun ⟨_, same, all⟩ => Tree.array.inj same ▸ all⟩
  | .string _ | .null | .bool _ | .number _ | .object _ | .broken =>
    simp [readList, Tree.DenotesList, unexpected_ne_ok]

/-- A name is read when it is the name of something. -/
theorem readName_eq_ok_iff {all : List α} {nameOf : α → String} (distinct : (all.map nameOf).Nodup)
    (complete : ∀ value, value ∈ all) (name : String) (value : α) :
    readName (all.map fun value => (nameOf value, value)) name = .ok value ↔
      name = nameOf value := by
  have injective : ∀ first second, nameOf first = nameOf second → first = second :=
    fun first second => List.inj_on_of_nodup_map distinct (complete first) (complete second)
  rw [readName, List.find?_map]
  cases found : all.find? ((fun entry => decide (entry.1 = name)) ∘
      fun value => (nameOf value, value)) with
  | none =>
    have unnamed := List.find?_eq_none.mp found value (complete value)
    simp only [Function.comp_apply, decide_eq_true_eq] at unnamed
    simp [Ne.symm unnamed]
  | some other =>
    have named : nameOf other = name := by simpa using List.find?_some found
    simp only [Option.map_some, Except.ok.injEq]
    rw [← named]
    exact ⟨congrArg nameOf, injective other value⟩

/-- A name with a payload is read when the payload is null and nothing follows. -/
theorem readVariant_object {all : List α} {nameOf : α → String}
    (named : ∀ name value, readName (all.map fun value => (nameOf value, value)) name = .ok value ↔
      name = nameOf value) (name : String) (payload : Tree) (others : List (Tree × Tree))
    (value : α) :
    readVariant (all.map fun value => (nameOf value, value))
        (.object ((.ofString name, payload) :: others)) = .ok value ↔
      name = nameOf value ∧ payload = .null ∧ others = [] := by
  rw [← named, Tree.ofString, readVariant]
  cases readName (all.map fun value => (nameOf value, value)) name with
  | error fault => simp
  | ok other =>
    cases payload with
    | null => cases others <;> simp
    | _ => simp [unexpected_ne_ok]

/-- Names are read faithfully. -/
theorem faithful_readVariant (all : List α) {nameOf : α → String}
    (distinct : (all.map nameOf).Nodup) (complete : ∀ value, value ∈ all) :
    Faithful (readVariant (all.map fun value => (nameOf value, value)))
      (Tree.DenotesName nameOf) := by
  intro tree _ value
  have named := readName_eq_ok_iff distinct complete
  cases tree with
  | string text =>
    cases text with
    | none => simp [readVariant, Tree.DenotesName, Tree.ofString, Tree.ofFields]
    | some name => simp [readVariant, named, Tree.DenotesName, Tree.ofString, Tree.ofFields]
  | object members =>
    cases members with
    | nil => simp [readVariant, Tree.DenotesName, Tree.ofString, Tree.ofFields]
    | cons member others =>
      obtain ⟨key, payload⟩ := member
      by_cases isName : ∃ name, key = .ofString name
      · obtain ⟨name, rfl⟩ := isName
        rw [readVariant_object named]
        simp [Tree.DenotesName, Tree.ofString, Tree.ofFields, and_assoc]
      · have undenoted : ¬ (Tree.object ((key, payload) :: others)).DenotesName nameOf value := by
          rintro (alone | only)
          · cases alone
          · cases only
            exact isName ⟨_, rfl⟩
        rw [iff_false_right undenoted]
        cases key with
        | string text =>
          cases text with
          | none => simp [readVariant, unexpected_ne_ok]
          | some name => exact absurd ⟨name, rfl⟩ isName
        | _ => simp [readVariant, unexpected_ne_ok]
  | _ => simp [readVariant, Tree.DenotesName, Tree.ofString, Tree.ofFields]

/-- Default bytes are read faithfully. -/
theorem faithful_readDefault : Faithful readDefault Tree.DenotesBytes := by
  intro tree whole bytes
  have isString := faithful_readString tree whole
  rw [readDefault, Tree.DenotesBytes]
  cases found : readString tree with
  | error fault =>
    have noText : ∀ text, tree ≠ .ofString text := by
      intro text shown
      rw [(isString text).mpr shown] at found
      cases found
    simp [noText]
  | ok text =>
    have shown : tree = .ofString text := (isString text).mp found
    have spelled : (∃ other, tree = .ofString other ∧ Hex.SpelledBy bytes other) ↔
        Hex.decodeText text = .ok bytes := by
      rw [Hex.decodeText_eq_ok_iff, shown]
      simp [Tree.ofString]
    rw [spelled]
    cases decoded : Hex.decodeText text <;> simp [decoded]

/-! ### Faithful readers of records -/

/-- Whether a shape follows a table of fields. The values of the shape are the parts of the record
that the fields stand for. -/
inductive Shape.Realizes : {α π : Type} → Shape α π → List (RecordField ρ) → (ρ → α) → Prop where
  /-- No fields. -/
  | done {view : ρ → Unit} : Realizes .done [] view
  /-- A required field has no default. -/
  | required {α β π : Type} {name : String} {read : Tree → Reading α} {denotes : Tree → α → Prop}
      {others : Shape β π} {fields : List (RecordField ρ)} {view : ρ → α × β}
      (faithful : Faithful read denotes)
      (rest : Realizes others fields fun record => (view record).2) :
      Realizes (.field name read none others)
        (.required name denotes (fun record => (view record).1) :: fields) view
  /-- A field that may be left out has an empty default. -/
  | orEmpty {α β π : Type} {name : String} {read : Tree → Reading (List α)}
      {denotes : Tree → List α → Prop} {others : Shape β π} {fields : List (RecordField ρ)}
      {view : ρ → List α × β} (faithful : Faithful read denotes)
      (rest : Realizes others fields fun record => (view record).2) :
      Realizes (.field name read (some []) others)
        (.orEmpty name denotes (fun record => (view record).1) :: fields) view

/-- The values of an object that is JSON to its end are. -/
theorem isWhole_of_membersAreWhole {members : List (Tree × Tree)}
    (whole : membersAreWhole members = true) : ∀ member ∈ members, member.2.isWhole = true := by
  induction members with
  | nil => nofun
  | cons first members ih =>
    obtain ⟨wholeFirst, wholeMembers⟩ := Bool.and_eq_true_iff.mp whole
    obtain ⟨-, wholeValue⟩ := Bool.and_eq_true_iff.mp wholeFirst
    exact List.forall_mem_cons.mpr ⟨wholeValue, ih wholeMembers⟩

/-- What is found under a name is listed with it. -/
theorem mem_of_lookup {entries : List (String × Tree)} {name : String} {tree : Tree}
    (found : entries.lookup name = some tree) : (name, tree) ∈ entries := by
  obtain ⟨before, after, rfl, -⟩ := List.lookup_eq_some_iff.mp found
  exact List.mem_append_right before List.mem_cons_self

/-- What a tree that is JSON to its end gives is, too. -/
theorem Tree.Gives.isWhole {names : List String} {tree : Tree} {given : String → Option Tree}
    (gives : tree.Gives names given) (whole : tree.isWhole = true) {name : String} {part : Tree}
    (gave : given name = some part) : part.isWhole = true := by
  cases gives with
  | @object members _ =>
    have listed := List.mem_map_of_mem (f := fun member => (Tree.ofString member.1, member.2))
      (mem_of_lookup gave)
    exact isWhole_of_membersAreWhole whole _ listed
  | @array items _ =>
    have listed := List.of_mem_zip (mem_of_lookup gave)
    exact isWhole_of_areWhole whole part listed.2

namespace Shape.Realizes

variable {shape : Shape α π} {fields : List (RecordField ρ)} {view : ρ → α}

/-- The shape has the names of the table. -/
theorem names (realizes : shape.Realizes fields view) :
    shape.names = fields.map RecordField.name := by
  induction realizes with
  | done => rfl
  | required _ _ ih | orEmpty _ _ ih => rw [Shape.names, ih]; rfl

/-- The values of the shape are given as the table says. -/
theorem holds_iff (realizes : shape.Realizes fields view) {given : String → Option Tree}
    (whole : ∀ name tree, given name = some tree → tree.isWhole = true) (record : ρ) :
    shape.Holds given (view record) ↔ ∀ field ∈ fields, field.Holds given record := by
  induction realizes with
  | done => simp [Shape.Holds]
  | @required _ _ _ name read denotes _ _ view faithful rest ih =>
    rw [List.forall_mem_cons, ← ih]
    refine and_congr_left fun _ => ?_
    simp only [RecordField.Holds, RecordField.required]
    cases gave : given name with
    | none => simp
    | some tree => simp [← faithful tree (whole name tree gave)]
  | @orEmpty _ _ _ name read denotes _ _ view faithful rest ih =>
    rw [List.forall_mem_cons, ← ih]
    refine and_congr_left fun _ => ?_
    simp only [RecordField.Holds, RecordField.orEmpty]
    cases gave : given name with
    | none => simp [eq_comm]
    | some tree => simp [← faithful tree (whole name tree gave)]

end Shape.Realizes

/-- Records are read faithfully when the shape follows the table and the values of the shape are
the parts of the record. -/
theorem faithful_record (view : ρ → α) {shape : Shape α π} {fields : List (RecordField ρ)}
    {make : α → ρ} (realizes : shape.Realizes fields view)
    (distinct : (fields.map RecordField.name).Nodup) (type : String)
    (make_view : ∀ record, make (view record) = record)
    (view_make : ∀ given values, shape.Holds given values → view (make values) = values) :
    Faithful (fun tree => (shape.read type tree).map make) (Tree.DenotesRecord fields) := by
  intro tree whole record
  have denoted : shape.read type tree = .ok (view record) ↔ tree.DenotesRecord fields record := by
    rw [Shape.read_eq_ok_iff (realizes.names ▸ distinct) type whole, realizes.names,
      Tree.DenotesRecord]
    refine exists_congr fun given => and_congr_right fun gives => ?_
    exact realizes.holds_iff (fun name tree gave => gives.isWhole whole gave) record
  show (shape.read type tree).map make = .ok record ↔ _
  rw [← denoted]
  cases found : shape.read type tree with
  | error fault => simp [Except.map]
  | ok values =>
    simp only [Except.map, Except.ok.injEq]
    obtain ⟨given, -, holds⟩ :=
      (Shape.read_eq_ok_iff (realizes.names ▸ distinct) type whole values).mp found
    constructor
    · rintro rfl
      exact (view_make given values holds).symm
    · rintro rfl
      exact make_view record

end EnclaveChain.Json
