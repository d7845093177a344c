import EnclaveChain.Json.Tree

/-!
# Writing JSON

Trees are written without blanks. In strings the quote, the backslash and control characters are
written as escapes, by letter where they have one.
-/
namespace EnclaveChain.Json

/-- A hexadecimal digit. -/
def hexDigit (value : Nat) : Char :=
  if value < 10 then Char.ofNat (48 + value) else Char.ofNat (87 + value)

/-- A character within a string. -/
def escapeChar (char : Char) : List Char :=
  match char with
  | '"' => ['\\', '"']
  | '\\' => ['\\', '\\']
  | '\x08' => ['\\', 'b']
  | '\x0c' => ['\\', 'f']
  | '\n' => ['\\', 'n']
  | '\r' => ['\\', 'r']
  | '\t' => ['\\', 't']
  | _ =>
    if char.toNat < 32 then
      ['\\', 'u', '0', '0', hexDigit (char.toNat / 16), hexDigit (char.toNat % 16)]
    else [char]

/-- A string between quotes. -/
def writeString (text : String) : List Char :=
  ['"'] ++ text.toList.flatMap escapeChar ++ ['"']

/-- Decimal digits. -/
def writeDigits (digits : List Nat) : List Char := digits.map fun digit => Char.ofNat (48 + digit)

/-- A numeral. -/
def Numeral.write (numeral : Numeral) : List Char :=
  (if numeral.negative then ['-'] else []) ++ writeDigits numeral.whole ++
    (match numeral.fraction with
      | none => []
      | some digits => ['.'] ++ writeDigits digits) ++
    (match numeral.exponent with
      | none => []
      | some (inverse, digits) =>
        ['e'] ++ (if inverse then ['-'] else []) ++ writeDigits digits)

/-- The numeral of a natural number. -/
def Numeral.ofNat (value : Nat) : Numeral :=
  ⟨false, (Nat.toDigits 10 value).map fun char => char.toNat - 48, none, none⟩

mutual

/-- The text of a tree. -/
def Tree.write : Tree → List Char
  | .null => ['n', 'u', 'l', 'l']
  | .bool true => ['t', 'r', 'u', 'e']
  | .bool false => ['f', 'a', 'l', 's', 'e']
  | .number numeral => numeral.write
  | .string text => writeString (text.getD "")
  | .array items => ['['] ++ writeItems items ++ [']']
  | .object members => ['\x7b'] ++ writeMembers members ++ ['\x7d']
  | .broken => []

/-- Items with commas between them. -/
def writeItems : List Tree → List Char
  | [] => []
  | [item] => item.write
  | item :: next :: items => item.write ++ [','] ++ writeItems (next :: items)

/-- Members with commas between them. -/
def writeMembers : List (Tree × Tree) → List Char
  | [] => []
  | [(key, value)] => key.write ++ [':'] ++ value.write
  | (key, value) :: next :: members =>
    key.write ++ [':'] ++ value.write ++ [','] ++ writeMembers (next :: members)

end

/-- The text of a tree. -/
def Tree.text (tree : Tree) : String := String.ofList tree.write

/-- A string as a tree. -/
def Tree.ofString (text : String) : Tree := .string (some text)

/-- A natural number as a tree. -/
def Tree.ofNat (value : Nat) : Tree := .number (.ofNat value)

/-- Named values as a tree. -/
def Tree.ofFields (fields : List (String × Tree)) : Tree :=
  .object (fields.map fun (name, value) => (.ofString name, value))

end EnclaveChain.Json
