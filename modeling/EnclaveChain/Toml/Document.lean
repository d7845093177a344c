import EnclaveChain.Toml.Scalar

/-!
# TOML documents

A text is a list of lines, each empty, a header that opens a table, or a key with its value. The
table of a text is what its statements build one after the other. Keys have fewer than eighty
parts, and brackets and braces stand less than eighty deep.
-/
namespace EnclaveChain.Toml

/-- The most parts of a key, and the most brackets around a value. -/
def maxDepth : Nat := 79

/-- A key, its equals sign, and its value. -/
def pair (value : Scan Value) : Scan (List String × Value) := fun text =>
  (dottedKey maxDepth text).bind fun (path, rest) =>
    match rest with
    | '=' :: rest => (value (skipBlanks rest)).map fun (value, rest) => ((path, value), rest)
    | _ => none

/-- The items of an array up to its closing bracket; the last one may have a comma. -/
def arrayItems (item : Scan Value) : Nat → Scan (List Value)
  | 0, _ => none
  | count + 1, text =>
    match skipLines false text with
    | ']' :: rest => some ([], rest)
    | text =>
      (item text).bind fun (value, rest) =>
        match skipLines false rest with
        | ',' :: rest => (arrayItems item count rest).map fun (values, rest) =>
          (value :: values, rest)
        | ']' :: rest => some ([value], rest)
        | _ => none

/-- The pairs of a table between braces up to its closing brace, all on one line. -/
def inlinePairs (item : Scan Value) : Nat → Scan (List (List String × Value))
  | 0, _ => none
  | count + 1, text =>
    (pair item text).bind fun (first, rest) =>
      match skipBlanks rest with
      | ',' :: rest => (inlinePairs item count rest).map fun (pairs, rest) => (first :: pairs, rest)
      | '\x7d' :: rest => some ([first], rest)
      | _ => none

/-- The table that pairs build. -/
def ofPairs (pairs : List (List String × Value)) : Option Entries :=
  pairs.foldlM (fun entries (path, value) => entries.put path value) []

/-- A value inside at most so many brackets. -/
def value : Nat → Scan Value
  | 0, text => flat text
  | depth + 1, text =>
    match text with
    | '[' :: rest => (arrayItems (value depth) (rest.length + 1) rest).map fun (items, rest) =>
      (.array items, rest)
    | '\x7b' :: rest =>
      match skipBlanks rest with
      | '\x7d' :: rest => some (.inline [], rest)
      | text => (inlinePairs (value depth) (text.length + 1) text).bind fun (pairs, rest) =>
        (ofPairs pairs).map fun entries => (.inline entries, rest)
    | text => flat text
where
  /-- A value without brackets. -/
  flat (text : List Char) : Option (Value × List Char) :=
    match text with
    | '"' :: _ | '\'' :: _ => (anyString text).map fun (chars, rest) =>
      (.string (String.ofList chars), rest)
    | _ => scalar text

/-- A statement. -/
inductive Statement where
  /-- A header that opens a table. -/
  | table (path : List String)
  /-- A header that opens one more table of a list. -/
  | element (path : List String)
  /-- A key with its value. -/
  | pair (path : List String) (value : Value)

/-- The text after the closing brackets of a header and the end of its line. -/
def closeHeader? (brackets : List Char) (text : List Char) : Option (List Char) :=
  if brackets.isPrefixOf text then endLine? (text.drop brackets.length) else none

/-- The statement of a line that has one, to the end of the line. -/
def statement : Scan Statement
  | '[' :: '[' :: rest => (dottedKey maxDepth rest).bind fun (path, rest) =>
    (closeHeader? [']', ']'] rest).map fun rest => (.element path, rest)
  | '[' :: rest => (dottedKey maxDepth rest).bind fun (path, rest) =>
    (closeHeader? [']'] rest).map fun rest => (.table path, rest)
  | text => (pair (value maxDepth) text).bind fun ((path, value), rest) =>
    (endLine? rest).map fun rest => (.pair path value, rest)

/-- The statements of at most so many lines. -/
def statements : Nat → List Char → Option (List Statement)
  | 0, text => if text = [] then some [] else none
  | lines + 1, text =>
    match skipLines false text with
    | [] => some []
    | text => (statement text).bind fun (first, rest) =>
      (statements lines rest).map (first :: ·)

/-- A table under construction: the root, and the path of the table that was opened last. -/
structure Draft where
  /-- The whole table. -/
  root : Entries
  /-- Where pairs are put. -/
  current : List String

/-- Opens a table at a path by the given way to open the last key. -/
def Draft.enter (draft : Draft) (path : List String) (enter : String → Entries → Option Entries) :
    Option Draft :=
  match path.getLast? with
  | none => none
  | some key => (Entries.change (enter key) path.dropLast draft.root).map (⟨·, path⟩)

/-- Adds what a statement says. -/
def Draft.extend (draft : Draft) : Statement → Option Draft
  | .table path => draft.enter path Entries.openTable
  | .element path => draft.enter path Entries.openElement
  | .pair path value =>
    (Entries.change (Entries.put path value) draft.current draft.root).map (⟨·, draft.current⟩)

/-- A text without the mark that some writers put in front of it. -/
def skipMark : List Char → List Char
  | '\ufeff' :: rest => rest
  | text => text

/-- The table of a text. -/
def read (text : String) : Option Entries :=
  let text := skipMark text.toList
  (statements (text.length + 1) text).bind fun found =>
    (found.foldlM Draft.extend ⟨[], []⟩).map (·.root)

end EnclaveChain.Toml
