import EnclaveChain.Toml.Table

/-!
# TOML texts and keys

The pieces that every statement is made of: blanks, comments and line ends, the four ways to write
a string, and keys of one or more parts. Strings are read one character at a time, with what is
still pending as a state, so that reading follows the text.
-/
namespace EnclaveChain.Toml

/-- Reads something from the front of a text; the rest of the text comes second. -/
abbrev Scan (α : Type) := List Char → Option (α × List Char)

/-- Whether a character is a blank inside a line. -/
def isBlank (char : Char) : Bool := char = ' ' || char = '\t'

/-- Whether a character may stand for itself: no control character but the tab. -/
def isPlain (char : Char) : Bool := char = '\t' || ' ' ≤ char && char ≠ '\x7f'

/-- A text without the blanks it begins with. -/
def skipBlanks (text : List Char) : List Char := text.dropWhile isBlank

/-- A text without the comment it begins with. -/
def skipComment : List Char → List Char
  | '#' :: rest => rest.dropWhile isPlain
  | text => text

/-- The text after the end of a line, if a line ends here. -/
def newline? : List Char → Option (List Char)
  | '\n' :: rest => some rest
  | '\r' :: '\n' :: rest => some rest
  | _ => none

/-- The text after the end of a line or of all text, which blanks and a comment may precede. -/
def endLine? (text : List Char) : Option (List Char) :=
  match skipComment (skipBlanks text) with
  | [] => some []
  | rest => newline? rest

/-- A text without the blanks, comments and line ends it begins with. -/
def skipLines (comment : Bool) : List Char → List Char
  | [] => []
  | '\r' :: '\n' :: rest => skipLines false rest
  | '\n' :: rest => skipLines false rest
  | char :: rest =>
    if comment then if isPlain char then skipLines true rest else char :: rest
    else if isBlank char then skipLines false rest
    else if char = '#' then skipLines true rest
    else char :: rest

/-- What is pending in a string with escapes. -/
inductive Pending where
  /-- Nothing. -/
  | nothing
  /-- A backslash. -/
  | escape
  /-- An escape by number, with so many digits to come and the value of those read. -/
  | code (left value : Nat)
  /-- A backslash and blanks, which must end the line. -/
  | lineEnd
  /-- A line end after a backslash, which hides the blanks and line ends that follow. -/
  | hidden
deriving DecidableEq, Repr

/-- The character that a letter after a backslash stands for. -/
def escaped? : Char → Option Char
  | 'b' => some '\x08'
  | 't' => some '\t'
  | 'n' => some '\n'
  | 'f' => some '\x0c'
  | 'r' => some '\r'
  | '"' => some '"'
  | '\\' => some '\\'
  | _ => none

/-- The value of a hexadecimal digit. -/
def hexValue? (char : Char) : Option Nat :=
  if '0' ≤ char ∧ char ≤ '9' then some (char.toNat - 48)
  else if 'a' ≤ char ∧ char ≤ 'f' then some (char.toNat - 87)
  else if 'A' ≤ char ∧ char ≤ 'F' then some (char.toNat - 55)
  else none

/-- The character of a number. -/
def charOf? (value : Nat) : Option Char :=
  if value.isValidChar then some (Char.ofNat value) else none

/-- A character in front of what is read after it. -/
def before (char : Char) (read : Option (List Char × List Char)) :
    Option (List Char × List Char) :=
  read.map fun (chars, rest) => (char :: chars, rest)

/-- The next digit of an escape by number: more digits to come, or a character. -/
def codeDigit (left value : Nat) (char : Char) : Option (Pending ⊕ Char) :=
  match hexValue? char with
  | none => none
  | some digit =>
    match left with
    | 0 => none
    | 1 => (charOf? (16 * value + digit)).map .inr
    | left + 1 => some (.inl (.code left (16 * value + digit)))

/-- The rest of a string between double quotes. -/
def basicString : Pending → Scan (List Char)
  | _, [] => none
  | .nothing, '"' :: rest => some ([], rest)
  | .nothing, '\\' :: rest => basicString .escape rest
  | .nothing, char :: rest => if isPlain char then before char (basicString .nothing rest) else none
  | .escape, 'u' :: rest => basicString (.code 4 0) rest
  | .escape, 'U' :: rest => basicString (.code 8 0) rest
  | .escape, char :: rest =>
    match escaped? char with
    | none => none
    | some char => before char (basicString .nothing rest)
  | .code left value, char :: rest =>
    match codeDigit left value char with
    | none => none
    | some (.inl pending) => basicString pending rest
    | some (.inr char) => before char (basicString .nothing rest)
  | .lineEnd, _ => none
  | .hidden, _ => none

/-- Up to two quotes that stand in front of the closing ones belong to the string. -/
def closing (quote : Char) : List Char → List Char × List Char
  | first :: second :: rest =>
    if first = quote then
      if second = quote then ([quote, quote], rest) else ([quote], second :: rest)
    else ([], first :: second :: rest)
  | [last] => if last = quote then ([quote], []) else ([], [last])
  | [] => ([], [])

/-- The rest of a string between three double quotes. -/
def longBasicString : Pending → Scan (List Char)
  | _, [] => none
  | .nothing, '"' :: '"' :: '"' :: rest => some (closing '"' rest)
  | .nothing, '\\' :: rest => longBasicString .escape rest
  | .nothing, '\n' :: rest => before '\n' (longBasicString .nothing rest)
  | .nothing, '\r' :: '\n' :: rest => before '\n' (longBasicString .nothing rest)
  | .nothing, char :: rest =>
    if isPlain char then before char (longBasicString .nothing rest) else none
  | .escape, 'u' :: rest => longBasicString (.code 4 0) rest
  | .escape, 'U' :: rest => longBasicString (.code 8 0) rest
  | .escape, '\n' :: rest => longBasicString .hidden rest
  | .escape, '\r' :: '\n' :: rest => longBasicString .hidden rest
  | .escape, char :: rest =>
    if isBlank char then longBasicString .lineEnd rest
    else
      match escaped? char with
      | none => none
      | some char => before char (longBasicString .nothing rest)
  | .code left value, char :: rest =>
    match codeDigit left value char with
    | none => none
    | some (.inl pending) => longBasicString pending rest
    | some (.inr char) => before char (longBasicString .nothing rest)
  | .lineEnd, '\n' :: rest => longBasicString .hidden rest
  | .lineEnd, '\r' :: '\n' :: rest => longBasicString .hidden rest
  | .lineEnd, char :: rest => if isBlank char then longBasicString .lineEnd rest else none
  | .hidden, '\n' :: rest => longBasicString .hidden rest
  | .hidden, '\r' :: '\n' :: rest => longBasicString .hidden rest
  | .hidden, '\\' :: rest => longBasicString .escape rest
  | .hidden, '"' :: '"' :: '"' :: rest => some (closing '"' rest)
  | .hidden, char :: rest =>
    if isBlank char then longBasicString .hidden rest
    else if isPlain char then before char (longBasicString .nothing rest)
    else none

/-- The rest of a string between single quotes, in which nothing is escaped. -/
def literalString : Scan (List Char)
  | [] => none
  | '\'' :: rest => some ([], rest)
  | char :: rest => if isPlain char then before char (literalString rest) else none

/-- The rest of a string between three single quotes. -/
def longLiteralString : Scan (List Char)
  | [] => none
  | '\'' :: '\'' :: '\'' :: rest => some (closing '\'' rest)
  | '\n' :: rest => before '\n' (longLiteralString rest)
  | '\r' :: '\n' :: rest => before '\n' (longLiteralString rest)
  | char :: rest => if isPlain char then before char (longLiteralString rest) else none

/-- A text without the line end it begins with. -/
def skipNewline (text : List Char) : List Char := (newline? text).getD text

/-- A string of a single line. -/
def shortString : Scan (List Char)
  | '"' :: rest => basicString .nothing rest
  | '\'' :: rest => literalString rest
  | _ => none

/-- A string in any of the four ways to write it. -/
def anyString : Scan (List Char)
  | '"' :: '"' :: '"' :: rest => longBasicString .nothing (skipNewline rest)
  | '\'' :: '\'' :: '\'' :: rest => longLiteralString (skipNewline rest)
  | text => shortString text

/-- Whether a character may stand in a key without quotes. -/
def isBare (char : Char) : Bool := char.isAlphanum || char = '_' || char = '-'

/-- A key of one part. -/
def simpleKey : Scan String := fun text =>
  match text with
  | '"' :: _ | '\'' :: _ => (shortString text).map fun (chars, rest) => (String.ofList chars, rest)
  | _ =>
    match text.span isBare with
    | ([], _) => none
    | (chars, rest) => some (String.ofList chars, rest)

/-- A key of at most so many parts, with blanks around each of them. -/
def dottedKey : Nat → Scan (List String)
  | 0, _ => none
  | parts + 1, text =>
    match simpleKey (skipBlanks text) with
    | none => none
    | some (part, rest) =>
      match skipBlanks rest with
      | '.' :: rest => (dottedKey parts rest).map fun (path, rest) => (part :: path, rest)
      | rest => some ([part], rest)

end EnclaveChain.Toml
