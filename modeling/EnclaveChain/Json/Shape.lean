import EnclaveChain.Json.Fault
import EnclaveChain.Json.Numeral

/-!
# Typed values from JSON

A reader takes a tree to a value or to the first fault in the order of the text. Records are read
by their shape, the list of their fields: from an object, whose fields may come in any order and
among unknown ones, or from an array that gives the fields in the order of the shape.
-/
namespace EnclaveChain.Json

/-- A typed value or the first fault of its text. -/
abbrev Reading (α : Type) := Except Fault α

/-- What a tree is, in the words of messages. -/
def describe : Tree → Reading String
  | .null => .ok "null"
  | .bool value => .ok ("boolean " ++ marked (toString value))
  | .number numeral =>
    match numeral.value with
    | .natural value => .ok ("integer " ++ marked (toString value))
    | .negative value => .ok ("integer " ++ marked ("-" ++ toString value))
    | .real negative magnitude => .ok ("floating point " ++ marked (realText negative magnitude))
    | .tooLarge => .error .malformed
  | .string (some text) => .ok ("string " ++ Text.quoted text)
  | .string none => .error .malformed
  | .array _ => .ok "sequence"
  | .object _ => .ok "map"
  | .broken => .error .malformed

/-- A tree of another kind than expected. -/
def unexpected {α : Type} (tree : Tree) (expected : String) : Reading α :=
  match describe tree with
  | .ok found => .error (.mismatch (.kind found expected))
  | .error fault => .error fault

/-- A tree of the right kind that is out of range. -/
def outOfRange {α : Type} (tree : Tree) (expected : String) : Reading α :=
  match describe tree with
  | .ok found => .error (.mismatch (.range found expected))
  | .error fault => .error fault

/-- Reads a natural number of so many bits. -/
def readNatural (bits : Nat) (tree : Tree) : Reading Nat :=
  let expected := "u" ++ toString bits
  match tree with
  | .number numeral =>
    match numeral.value with
    | .natural value => if value < 2 ^ bits then .ok value else outOfRange tree expected
    | .negative _ => outOfRange tree expected
    | _ => unexpected tree expected
  | _ => unexpected tree expected

/-- Reads a string. -/
def readString (tree : Tree) : Reading String :=
  match tree with
  | .string (some text) => .ok text
  | _ => unexpected tree "a string"

/-- Reads items in order. -/
def readItems {α : Type} (item : Tree → Reading α) : List Tree → Reading (List α)
  | [] => .ok []
  | tree :: trees =>
    match item tree with
    | .error fault => .error fault
    | .ok value =>
      match readItems item trees with
      | .error fault => .error fault
      | .ok values => .ok (value :: values)

/-- Reads an array. -/
def readList {α : Type} (item : Tree → Reading α) (tree : Tree) : Reading (List α) :=
  match tree with
  | .array items => readItems item items
  | _ => unexpected tree "a sequence"

/-- The value of a name. -/
def readName {α : Type} (names : List (String × α)) (name : String) : Reading α :=
  match names.find? (·.1 = name) with
  | some (_, value) => .ok value
  | none => .error (.mismatch (.variant name (names.map (·.1))))

/-- Reads a name, alone or as the only key of an object with the value null. -/
def readVariant {α : Type} (names : List (String × α)) : Tree → Reading α
  | .string (some name) => readName names name
  | .object ((.string (some name), payload) :: others) =>
    match readName names name with
    | .error fault => .error fault
    | .ok value =>
      match payload with
      | .null => if others.isEmpty then .ok value else .error .malformed
      | _ => unexpected payload "unit"
  | .object ((key, _) :: _) => unexpected key "variant identifier"
  | _ => .error .malformed

/-- The fields of a record, in order: the type of the record's values, and the type of what is
known of one while its fields are read. -/
inductive Shape : Type → Type → Type 1 where
  /-- No more fields. -/
  | done : Shape Unit Unit
  /-- A field with its reader and, where it may be left out, its default. -/
  | field {α β π : Type} (name : String) (read : Tree → Reading α) (default : Option α)
      (others : Shape β π) : Shape (α × β) (Option α × π)

namespace Shape

/-- What is known before any field is read. -/
def blank : {α π : Type} → Shape α π → π
  | _, _, .done => ()
  | _, _, .field _ _ _ others => (none, others.blank)

/-- The number of fields. -/
def count : {α π : Type} → Shape α π → Nat
  | _, _, .done => 0
  | _, _, .field _ _ _ others => others.count + 1

/-- Reads the value of a known field, which must not be known yet; of an unknown field nothing is
read. -/
def put : {α π : Type} → Shape α π → π → String → Tree → Reading (Option π)
  | _, _, .done, _, _, _ => .ok none
  | _, _, .field name read _ others, (known, rest), key, tree =>
    if key = name then
      if known.isSome then .error (.mismatch (.duplicate name))
      else
        match read tree with
        | .error fault => .error fault
        | .ok value => .ok (some (some value, rest))
    else
      match others.put rest key tree with
      | .error fault => .error fault
      | .ok none => .ok none
      | .ok (some rest) => .ok (some (known, rest))

/-- The record that is known once the object ends. -/
def complete : {α π : Type} → Shape α π → π → Reading α
  | _, _, .done, _ => .ok ()
  | _, _, .field name _ default others, (known, rest) =>
    match known.or default with
    | none => .error (.mismatch (.missing name))
    | some value =>
      match others.complete rest with
      | .error fault => .error fault
      | .ok values => .ok (value, values)

/-- Reads the members of an object in the order of the text. -/
def readMembers {α π : Type} (shape : Shape α π) (known : π) :
    List (Tree × Tree) → Reading π
  | [] => .ok known
  | (.string (some key), value) :: members =>
    match shape.put known key value with
    | .error fault => .error fault
    | .ok (some known) => shape.readMembers known members
    | .ok none => if value.isWhole then shape.readMembers known members else .error .malformed
  | _ => .error .malformed

/-- Reads fields from the items of an array, after so many others. -/
def readPositions : {α π : Type} → Shape α π → String → Nat → List Tree → Reading α
  | _, _, .done, _, _, items => if items.isEmpty then .ok () else .error .malformed
  | _, _, .field _ read _ others, expected, before, item :: items =>
    match read item with
    | .error fault => .error fault
    | .ok value =>
      match others.readPositions expected (before + 1) items with
      | .error fault => .error fault
      | .ok values => .ok (value, values)
  | _, _, .field _ _ default others, expected, before, [] =>
    match default with
    | none => .error (.mismatch (.length before expected))
    | some value =>
      match others.readPositions expected (before + 1) [] with
      | .error fault => .error fault
      | .ok values => .ok (value, values)

/-- Reads a record of a named type. -/
def read {α π : Type} (shape : Shape α π) (type : String) (tree : Tree) : Reading α :=
  match tree with
  | .object members =>
    match shape.readMembers shape.blank members with
    | .error fault => .error fault
    | .ok known => shape.complete known
  | .array items =>
    let expected := "struct " ++ type ++ " with " ++ toString shape.count ++ " elements"
    shape.readPositions expected 0 items
  | _ => unexpected tree ("struct " ++ type)

end Shape

/-- Reads a text with the reader of its tree; after the value only blanks may follow. -/
def Document.read {α : Type} (document : Document) (reader : Tree → Reading α) : Reading α :=
  match reader document.tree with
  | .error fault => .error fault
  | .ok value => if document.clean then .ok value else .error .malformed

end EnclaveChain.Json
