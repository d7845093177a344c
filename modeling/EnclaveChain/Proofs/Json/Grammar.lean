import EnclaveChain.Json.Writer
import EnclaveChain.Proofs.Text.Hex
import Mathlib.Data.List.Forall2
import Mathlib.Data.Nat.Digits.Defs

/-!
# The grammar of JSON

Which texts are JSON, and which tree each of them spells. The grammar is a relation between texts
and trees, stated without the reader: blanks between tokens, strings with escapes by letter, by
number and by pairs of numbers, numerals without leading zeros, and lists between brackets and
braces with commas in between. A string has an escape for every character and none for half of a
pair, so the trees that are spelled are those in which every string is a text.
-/
namespace EnclaveChain.Json

/-! ### Blanks -/

/-- The characters that may stand between tokens. -/
def blanks : List Char := [' ', '\t', '\n', '\r']

/-- Whether nothing but blanks is written. -/
def AreBlank (chars : List Char) : Prop := ∀ char ∈ chars, char ∈ blanks

/-- Nothing is blank. -/
theorem areBlank_nil : AreBlank [] := nofun

/-- Whether something is written with blanks around it. -/
def Padded (spelled : List Char → Prop) (chars : List Char) : Prop :=
  ∃ before middle after, chars = before ++ middle ++ after ∧
    AreBlank before ∧ spelled middle ∧ AreBlank after

/-- Blanks may be left out. -/
theorem Padded.of_spelled {spelled : List Char → Prop} {chars : List Char}
    (isSpelled : spelled chars) : Padded spelled chars :=
  ⟨[], chars, [], (List.append_nil chars).symm, areBlank_nil, isSpelled, areBlank_nil⟩

/-- Whether two things are written with a mark between them. -/
def Separated (mark : Char) (first second : List Char → Prop) (chars : List Char) : Prop :=
  ∃ before after, chars = before ++ mark :: after ∧ first before ∧ second after

/-! ### Strings -/

/-- What a letter after a backslash stands for. -/
def escapes : List (Char × Char) :=
  [('"', '"'), ('\\', '\\'), ('/', '/'), ('b', '\x08'), ('f', '\x0c'), ('n', '\n'), ('r', '\r'),
    ('t', '\t')]

/-- Whether four hexadecimal digits spell a number. -/
def SpellsUnit (chars : List Char) (unit : Nat) : Prop :=
  ∃ values, chars.length = 4 ∧ List.Forall₂ Hex.IsDigit chars values ∧
    unit = Nat.ofDigits 16 values.reverse

/-- What is written between quotes, and the characters that it stands for. -/
inductive SpellsText : List Char → List Char → Prop where
  /-- Nothing stands for nothing. -/
  | nil : SpellsText [] []
  /-- Most characters stand for themselves. -/
  | plain {char : Char} {written meant : List Char} (notQuote : char ≠ '"')
      (notBackslash : char ≠ '\\') (notControl : 0x20 ≤ char.toNat)
      (others : SpellsText written meant) : SpellsText (char :: written) (char :: meant)
  /-- Some characters have a letter. -/
  | letter {letter char : Char} {written meant : List Char} (listed : (letter, char) ∈ escapes)
      (others : SpellsText written meant) :
      SpellsText ('\\' :: letter :: written) (char :: meant)
  /-- A character of the basic plane has its number. -/
  | number {digits : List Char} {char : Char} {written meant : List Char}
      (spelled : SpellsUnit digits char.toNat) (others : SpellsText written meant) :
      SpellsText ('\\' :: 'u' :: (digits ++ written)) (char :: meant)
  /-- A character beyond the basic plane has two halves. -/
  | pair {high low : List Char} {char : Char} {written meant : List Char}
      (beyond : 0x10000 ≤ char.toNat)
      (first : SpellsUnit high (0xD800 + (char.toNat - 0x10000) / 0x400))
      (second : SpellsUnit low (0xDC00 + (char.toNat - 0x10000) % 0x400))
      (others : SpellsText written meant) :
      SpellsText ('\\' :: 'u' :: (high ++ '\\' :: 'u' :: (low ++ written))) (char :: meant)

/-! ### Numerals -/

/-- Whether decimal digits are written, at least one. -/
def SpellsDigits (chars : List Char) (digits : List Nat) : Prop :=
  digits ≠ [] ∧ (∀ digit ∈ digits, digit < 10) ∧ chars = digits.map Nat.digitChar

/-- Whether a fraction is written: a point and digits. -/
def SpellsFraction (chars : List Char) : Option (List Nat) → Prop
  | none => chars = []
  | some digits => ∃ written, chars = '.' :: written ∧ SpellsDigits written digits

/-- The ways to write a sign of a power of ten. -/
def powerSigns (negative : Bool) : List (List Char) := if negative then [['-']] else [[], ['+']]

/-- Whether a power of ten is written: its mark, its sign and digits. -/
def SpellsPower (chars : List Char) : Option (Bool × List Nat) → Prop
  | none => chars = []
  | some (negative, digits) =>
    ∃ mark ∈ ['e', 'E'], ∃ sign ∈ powerSigns negative, ∃ written,
      chars = mark :: (sign ++ written) ∧ SpellsDigits written digits

/-- Whether a number is written: a sign, digits of which the first is zero only when it is alone, a
fraction and a power of ten. -/
def Numeral.SpelledBy (numeral : Numeral) (chars : List Char) : Prop :=
  ∃ whole fraction power,
    chars = (if numeral.negative then ['-'] else []) ++ whole ++ fraction ++ power ∧
    SpellsDigits whole numeral.whole ∧ (numeral.whole.head? = some 0 → numeral.whole = [0]) ∧
    SpellsFraction fraction numeral.fraction ∧ SpellsPower power numeral.exponent

/-! ### Values -/

mutual

/-- Whether a value is written, without blanks around it. -/
def Tree.SpelledBy : Tree → List Char → Prop
  | .null, chars => chars = "null".toList
  | .bool true, chars => chars = "true".toList
  | .bool false, chars => chars = "false".toList
  | .number numeral, chars => numeral.SpelledBy chars
  | .string (some text), chars =>
    ∃ written, chars = '"' :: (written ++ ['"']) ∧ SpellsText written text.toList
  | .string none, _ => False
  | .array items, chars => ∃ inner, chars = '[' :: (inner ++ [']']) ∧ itemsSpelledBy items inner
  | .object members, chars =>
    ∃ inner, chars = '\x7b' :: (inner ++ ['\x7d']) ∧ membersSpelledBy members inner
  | .broken, _ => False

/-- Whether items are written, with commas between them. -/
def itemsSpelledBy : List Tree → List Char → Prop
  | [], inner => AreBlank inner
  | [item], inner => Padded item.SpelledBy inner
  | item :: next :: items, inner =>
    Separated ',' (Padded item.SpelledBy) (itemsSpelledBy (next :: items)) inner

/-- Whether members are written, each a string, a colon and a value, with commas between them. -/
def membersSpelledBy : List (Tree × Tree) → List Char → Prop
  | [], inner => AreBlank inner
  | [(key, value)], inner =>
    (∃ name, key = .ofString name) ∧
      Separated ':' (Padded key.SpelledBy) (Padded value.SpelledBy) inner
  | (key, value) :: next :: members, inner =>
    (∃ name, key = .ofString name) ∧
      Separated ',' (Separated ':' (Padded key.SpelledBy) (Padded value.SpelledBy))
        (membersSpelledBy (next :: members)) inner

end

/-- Whether a text is JSON with this value. -/
def Tree.IsValueOf (tree : Tree) (text : String) : Prop := Padded tree.SpelledBy text.toList

end EnclaveChain.Json
