import EnclaveChain.Number.Shortest

/-!
# JSON values as they are written

A tree keeps what a text says, not what it means: numbers are numerals, members are in order and
may repeat, and the place where the text stops being JSON is a leaf of its own. Whatever stands
before that place can be judged without knowing what comes after it.
-/
namespace EnclaveChain.Json

/-- A number as it is written. -/
structure Numeral where
  /-- Whether a minus sign opens it. -/
  negative : Bool
  /-- Digits before the point. -/
  whole : List Nat
  /-- Digits after the point, if there is one. -/
  fraction : Option (List Nat)
  /-- Sign and digits of the power of ten, if there is one. -/
  exponent : Option (Bool × List Nat)
deriving DecidableEq, Repr

/-- What a text says. -/
inductive Tree where
  /-- The word `null`. -/
  | null
  /-- A truth value. -/
  | bool (value : Bool)
  /-- A number. -/
  | number (numeral : Numeral)
  /-- A string, or none where its escapes do not spell a text. -/
  | string (text : Option String)
  /-- Items between brackets. -/
  | array (items : List Tree)
  /-- Members between braces, each with what stands in the place of its key. -/
  | object (members : List (Tree × Tree))
  /-- Here the text is not JSON. -/
  | broken
deriving Repr

/-- A text: its value, and whether nothing but blanks follows it. -/
structure Document where
  /-- The value. -/
  tree : Tree
  /-- Whether nothing follows. -/
  clean : Bool
deriving Repr

mutual

/-- Whether a tree is JSON to its end. -/
def Tree.isWhole : Tree → Bool
  | .array items => areWhole items
  | .object members => membersAreWhole members
  | .broken => false
  | _ => true

/-- Whether all items are JSON to their ends. -/
def areWhole : List Tree → Bool
  | [] => true
  | item :: items => item.isWhole && areWhole items

/-- Whether all members are JSON to their ends. -/
def membersAreWhole : List (Tree × Tree) → Bool
  | [] => true
  | (key, value) :: members => key.isWhole && value.isWhole && membersAreWhole members

end

end EnclaveChain.Json
