import EnclaveChain.Proofs.Text.Hex
import Mathlib.Data.List.Forall2
import Mathlib.Data.Nat.Digits.Defs

/-!
# The grammar of TOML

Which texts are documents of strings, and what each of them says. The grammar is a relation between
texts and lines, stated without the reader: keys without quotes, in double or in single quotes,
strings in all four ways to write them, headers, and blanks, comments and line ends around all that.
Numbers, dates, arrays and tables between braces are left out, as are keys of several parts: an
outline has strings in its root and in the tables that headers open, and nothing else.
-/
namespace EnclaveChain.Toml

/-- What is checked for each element of a list holds of all of them. -/
theorem forall_of_all {α : Type} {list : List α} {property : α → Prop} [DecidablePred property]
    (checked : list.all fun element => property element) : ∀ element ∈ list, property element :=
  fun element inside => of_decide_eq_true (List.all_eq_true.mp checked element inside)

/-! ### Blanks and line ends -/

/-- The characters that may stand between the parts of a line. -/
def blanks : List Char := [' ', '\t']

/-- There are two blanks. -/
theorem mem_blanks {char : Char} : char ∈ blanks ↔ char = ' ' ∨ char = '\t' := by simp [blanks]

/-- Whether nothing but blanks is written. -/
def AreBlank (chars : List Char) : Prop := ∀ char ∈ chars, char ∈ blanks

/-- Nothing is blank. -/
theorem areBlank_nil : AreBlank [] := nofun

/-- Whether a character may be written as it is: no control character but the tab. -/
def StandsForItself (char : Char) : Prop := char = '\t' ∨ 0x20 ≤ char.toNat ∧ char ≠ '\x7f'

instance : DecidablePred StandsForItself := fun _ => inferInstanceAs (Decidable (_ ∨ _))

/-- The ways to end a line. -/
def newlines : List (List Char) := [['\n'], ['\r', '\n']]

/-- There are two line ends. -/
theorem mem_newlines {newline : List Char} :
    newline ∈ newlines ↔ newline = ['\n'] ∨ newline = ['\r', '\n'] := by simp [newlines]

/-- Whether a comment or nothing is written. -/
def IsRemark (chars : List Char) : Prop :=
  chars = [] ∨ ∃ inner, chars = '#' :: inner ∧ ∀ char ∈ inner, StandsForItself char

/-- Whether nothing more is written on a line, and what is written after it. The last line need not
have an end. -/
def EndsLine (chars after : List Char) : Prop :=
  ∃ before remark newline, chars = before ++ (remark ++ (newline ++ after)) ∧
    AreBlank before ∧ IsRemark remark ∧ (newline ∈ newlines ∨ newline = [] ∧ after = [])

/-! ### Strings -/

/-- What a letter after a backslash stands for. -/
def escapes : List (Char × Char) :=
  [('b', '\x08'), ('t', '\t'), ('n', '\n'), ('f', '\x0c'), ('r', '\r'), ('"', '"'), ('\\', '\\')]

/-- Whether hexadecimal digits spell a number. -/
def SpellsNumber (digits : List Char) (number : Nat) : Prop :=
  ∃ values, List.Forall₂ Hex.IsDigit digits values ∧ number = Nat.ofDigits 16 values.reverse

/-- Whether an escape is written for a character. -/
inductive SpellsEscape : List Char → Char → Prop where
  /-- Some characters have a letter. -/
  | letter {letter char : Char} (listed : (letter, char) ∈ escapes) :
      SpellsEscape ['\\', letter] char
  /-- A character of the basic plane has a number of four digits. -/
  | short {digits : List Char} {char : Char} (four : digits.length = 4)
      (spelled : SpellsNumber digits char.toNat) : SpellsEscape ('\\' :: 'u' :: digits) char
  /-- Every character has a number of eight digits. -/
  | long {digits : List Char} {char : Char} (eight : digits.length = 8)
      (spelled : SpellsNumber digits char.toNat) : SpellsEscape ('\\' :: 'U' :: digits) char

/-- What is written between double quotes, and the characters that it stands for. -/
inductive SpellsBasic : List Char → List Char → Prop where
  /-- Nothing stands for nothing. -/
  | nil : SpellsBasic [] []
  /-- Most characters stand for themselves. -/
  | plain {char : Char} {written meant : List Char} (itself : StandsForItself char)
      (notQuote : char ≠ '"') (notBackslash : char ≠ '\\') (others : SpellsBasic written meant) :
      SpellsBasic (char :: written) (char :: meant)
  /-- An escape stands for its character. -/
  | escape {escape : List Char} {char : Char} {written meant : List Char}
      (escaped : SpellsEscape escape char) (others : SpellsBasic written meant) :
      SpellsBasic (escape ++ written) (char :: meant)

/-- Whether characters may be written between single quotes, where they stand for themselves. -/
def AreLiteral (chars : List Char) : Prop := ∀ char ∈ chars, StandsForItself char ∧ char ≠ '\''

/-- What is written after three quotes up to the last of the closing ones, and the characters that
it stands for. Blanks and line ends are folded away after a backslash that ends a line; the flag
says whether they are. Backslashes are special between double quotes only. -/
inductive SpellsLong (quote : Char) : Bool → List Char → List Char → Prop where
  /-- Up to two quotes in front of the closing ones belong to the string. -/
  | close {folding : Bool} {count : Nat} (few : count ≤ 2) :
      SpellsLong quote folding (List.replicate (count + 3) quote) (List.replicate count quote)
  /-- A quote that is not the first of three belongs to the string. -/
  | quote {folding : Bool} {written meant : List Char} (notThree : ¬[quote, quote] <+: written)
      (others : SpellsLong quote false written meant) :
      SpellsLong quote folding (quote :: written) (quote :: meant)
  /-- Most characters stand for themselves. -/
  | plain {folding : Bool} {char : Char} {written meant : List Char} (itself : StandsForItself char)
      (notQuote : char ≠ quote) (notBackslash : quote = '"' → char ≠ '\\')
      (kept : folding = true → char ∉ blanks) (others : SpellsLong quote false written meant) :
      SpellsLong quote folding (char :: written) (char :: meant)
  /-- A line end belongs to the string. -/
  | newline {newline written meant : List Char} (ends : newline ∈ newlines)
      (others : SpellsLong quote false written meant) :
      SpellsLong quote false (newline ++ written) ('\n' :: meant)
  /-- An escape stands for its character. -/
  | escape {folding : Bool} {escape : List Char} {char : Char} {written meant : List Char}
      (double : quote = '"') (escaped : SpellsEscape escape char)
      (others : SpellsLong quote false written meant) :
      SpellsLong quote folding (escape ++ written) (char :: meant)
  /-- A backslash at the end of a line begins to fold. -/
  | fold {folding : Bool} {before newline written meant : List Char} (double : quote = '"')
      (blank : AreBlank before) (ends : newline ∈ newlines)
      (others : SpellsLong quote true written meant) :
      SpellsLong quote folding ('\\' :: (before ++ (newline ++ written))) meant
  /-- Blanks are folded away. -/
  | blank {char : Char} {written meant : List Char} (double : quote = '"') (blank : char ∈ blanks)
      (others : SpellsLong quote true written meant) : SpellsLong quote true (char :: written) meant
  /-- Line ends are folded away. -/
  | folded {newline written meant : List Char} (double : quote = '"') (ends : newline ∈ newlines)
      (others : SpellsLong quote true written meant) :
      SpellsLong quote true (newline ++ written) meant

/-- Whether a text is written as a string, in one of the four ways. -/
inductive SpellsString : List Char → String → Prop where
  /-- Between double quotes. -/
  | basic {written : List Char} {text : String} (inner : SpellsBasic written text.toList) :
      SpellsString ('"' :: (written ++ ['"'])) text
  /-- Between single quotes. -/
  | literal {text : String} (inner : AreLiteral text.toList) :
      SpellsString ('\'' :: (text.toList ++ ['\''])) text
  /-- Between three double or three single quotes; a line end right after them does not count. -/
  | long {quote : Char} {newline written : List Char} {text : String} (listed : quote ∈ ['"', '\''])
      (opened : newline ∈ newlines ∨ newline = [] ∧ ∀ newline ∈ newlines, ¬newline <+: written)
      (inner : SpellsLong quote false written text.toList) :
      SpellsString (quote :: quote :: quote :: (newline ++ written)) text

/-! ### Lines -/

/-- Whether a character may stand in a key without quotes. -/
def StandsInKey (char : Char) : Prop := char.isAlphanum ∨ char = '_' ∨ char = '-'

instance : DecidablePred StandsInKey := fun _ => inferInstanceAs (Decidable (_ ∨ _))

/-- Whether a name is written as a key. -/
inductive SpellsKey : List Char → String → Prop where
  /-- Without quotes. -/
  | bare {name : String} (notEmpty : name.toList ≠ [])
      (bare : ∀ char ∈ name.toList, StandsInKey char) : SpellsKey name.toList name
  /-- Between double quotes. -/
  | basic {written : List Char} {name : String} (inner : SpellsBasic written name.toList) :
      SpellsKey ('"' :: (written ++ ['"'])) name
  /-- Between single quotes. -/
  | literal {name : String} (inner : AreLiteral name.toList) :
      SpellsKey ('\'' :: (name.toList ++ ['\''])) name

/-- What a line says. -/
inductive Line where
  /-- A name has a string. -/
  | pair (name text : String)
  /-- The table of a name is opened. -/
  | header (name : String)

/-- Whether a line gives a string to a name. -/
def Line.isPair : Line → Bool
  | .pair _ _ => true
  | .header _ => false

/-- Whether a line is written, from its first character that is not blank to its last one. -/
inductive SpellsLine : List Char → Line → Prop where
  /-- A key, an equals sign and a string. -/
  | pair {key before after value : List Char} {name text : String} (named : SpellsKey key name)
      (blankBefore : AreBlank before) (blankAfter : AreBlank after)
      (string : SpellsString value text) :
      SpellsLine (key ++ (before ++ '=' :: (after ++ value))) (.pair name text)
  /-- A key between brackets. -/
  | header {before key after : List Char} {name : String} (blankBefore : AreBlank before)
      (named : SpellsKey key name) (blankAfter : AreBlank after) :
      SpellsLine ('[' :: (before ++ (key ++ (after ++ [']'])))) (.header name)

/-- Whether lines are written in front of something else, with empty lines between them. -/
inductive SpellsLines (tail : List Char) : List Char → List Line → Prop where
  /-- No lines are left. -/
  | done : SpellsLines tail tail []
  /-- A line is empty but for a comment. -/
  | empty {chars after : List Char} {lines : List Line} (ends : EndsLine chars after)
      (others : SpellsLines tail after lines) : SpellsLines tail chars lines
  /-- A line says something. -/
  | line {indent written rest after : List Char} {line : Line} {lines : List Line}
      (blank : AreBlank indent) (spelled : SpellsLine written line) (ends : EndsLine rest after)
      (others : SpellsLines tail after lines) :
      SpellsLines tail (indent ++ (written ++ rest)) (line :: lines)

/-- Whether what is written makes something other than a string of a name of the root. A pair does
only in front of all headers; the flag says whether it must stand there. -/
inductive SpellsOther (name : String) : Bool → List Char → Prop where
  /-- The name has a value that does not begin as a string does. -/
  | value {key before after chars : List Char} (named : SpellsKey key name)
      (blankBefore : AreBlank before) (blankAfter : AreBlank after)
      (other : ∀ first ∈ chars.head?, first ∉ '"' :: '\'' :: blanks) :
      SpellsOther name true (key ++ (before ++ '=' :: (after ++ chars)))
  /-- The name is the first part of a key. -/
  | dotted {key before chars : List Char} (named : SpellsKey key name) (blank : AreBlank before) :
      SpellsOther name true (key ++ (before ++ '.' :: chars))
  /-- A header opens the table of the name or one in it. -/
  | table {front : Bool} {before key chars : List Char} (blank : AreBlank before)
      (named : SpellsKey key name) (ends : ∀ next ∈ chars.head?, ¬StandsInKey next) :
      SpellsOther name front ('[' :: (before ++ (key ++ chars)))
  /-- A header opens one more table of the name or one in it. -/
  | element {front : Bool} {before key chars : List Char} (blank : AreBlank before)
      (named : SpellsKey key name) (ends : ∀ next ∈ chars.head?, ¬StandsInKey next) :
      SpellsOther name front ('[' :: '[' :: (before ++ (key ++ chars)))

/-! ### Documents -/

/-- What a document of strings says. -/
structure Outline where
  /-- The names in front of all headers, with their strings. -/
  pairs : List (String × String)
  /-- The tables that headers open, with the names in them. -/
  tables : List (String × List (String × String))

namespace Outline

/-- The line of a name and its string. -/
def pairLine (entry : String × String) : Line := .pair entry.1 entry.2

/-- The lines of a table. -/
def tableLines (table : String × List (String × String)) : List Line :=
  .header table.1 :: table.2.map pairLine

/-- The lines of a document. -/
def lines (outline : Outline) : List Line :=
  outline.pairs.map pairLine ++ outline.tables.flatMap tableLines

/-- The names of the root. -/
def names (outline : Outline) : List String :=
  outline.pairs.map (·.1) ++ outline.tables.map (·.1)

/-- Whether no name is given twice in the root or in a table. -/
structure IsDistinct (outline : Outline) : Prop where
  /-- No name of the root is. -/
  names : outline.names.Nodup
  /-- No name of a table is. -/
  tables : ∀ table ∈ outline.tables, (table.2.map (·.1)).Nodup

/-- Whether a document is what a text says. -/
def IsSpelledBy (outline : Outline) (text : String) : Prop :=
  SpellsLines [] text.toList outline.lines

end Outline

end EnclaveChain.Toml
