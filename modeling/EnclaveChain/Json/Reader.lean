import EnclaveChain.Json.Tree

/-!
# Reading JSON

The reader takes a text one character at a time; its state is what has been opened and not yet
closed, and what may come next. Reading is therefore a left fold, and reading one text after
another is reading from the state that the first one leads to. Where the text stops being JSON the
open parts are closed around a broken leaf and the rest is not looked at.
-/
namespace EnclaveChain.Json

/-- The character of a code point; a surrogate half has none. -/
def isSurrogate (unit : Nat) : Bool := 0xD800 ≤ unit && unit ≤ 0xDFFF

/-- The text that code points and pairs of surrogate halves spell, unless a half stands alone. -/
def spell : List Nat → Option (List Char)
  | [] => some []
  | [unit] => if isSurrogate unit then none else some [Char.ofNat unit]
  | unit :: next :: units =>
    if isSurrogate unit then
      if unit < 0xDC00 ∧ 0xDC00 ≤ next ∧ next ≤ 0xDFFF then
        (spell units).map (Char.ofNat (0x10000 + (unit - 0xD800) * 0x400 + (next - 0xDC00)) :: ·)
      else none
    else (spell (next :: units)).map (Char.ofNat unit :: ·)

/-- Something opened, with what it holds so far, last first. -/
inductive Frame where
  /-- An array. -/
  | array (items : List Tree)
  /-- An object that expects a key. -/
  | object (members : List (Tree × Tree))
  /-- An object that expects the value of a key. -/
  | member (members : List (Tree × Tree)) (key : Tree)

/-- A numeral being read, digits last first. -/
structure Draft where
  /-- Whether a minus sign opens it. -/
  negative : Bool
  /-- Digits before the point. -/
  whole : List Nat
  /-- Digits after the point. -/
  fraction : List Nat
  /-- Whether the power of ten is negative. -/
  inverse : Bool
  /-- Digits of the power of ten. -/
  exponent : List Nat

/-- What was read last of a numeral. -/
inductive Stage where
  /-- The minus sign. -/
  | minus
  /-- A zero before the point. -/
  | zero
  /-- Another digit before the point. -/
  | whole
  /-- The point. -/
  | point
  /-- A digit after the point. -/
  | fraction
  /-- The letter before the power of ten. -/
  | mark
  /-- The sign of the power of ten. -/
  | sign
  /-- A digit of the power of ten. -/
  | exponent
deriving DecidableEq

/-- What is being read, or what may come next. -/
inductive Mode where
  /-- A value or a key comes next. -/
  | value
  /-- What was opened just now may be closed, or a value or a key comes next. -/
  | opened
  /-- A comma or a closing bracket comes next. -/
  | separator
  /-- A colon comes next. -/
  | colon
  /-- These letters of a word come next. -/
  | word (letters : List Char) (value : Tree)
  /-- Within a string with these code points, last first. -/
  | string (units : List Nat)
  /-- After a backslash in a string. -/
  | escape (units : List Nat)
  /-- In an escape by number, with so many digits to come. -/
  | unicode (units : List Nat) (digits : Nat) (value : Nat)
  /-- Within a number. -/
  | number (draft : Draft) (stage : Stage)
  /-- The value is complete; only blanks may follow. -/
  | finished (tree : Tree)
  /-- The text is not JSON. -/
  | failed (document : Document)

/-- The state of the reader. -/
structure State where
  /-- What is open, innermost first. -/
  stack : List Frame
  /-- What comes next. -/
  mode : Mode

namespace State

/-- The state before the text. -/
def start : State := ⟨[], .value⟩

/-- What was read, closed around what could not be read on. -/
def enclose : List Frame → Tree → Tree
  | [], tree => tree
  | .array items :: stack, tree => enclose stack (.array (tree :: items).reverse)
  | .object members :: stack, tree => enclose stack (.object ((tree, .broken) :: members).reverse)
  | .member members key :: stack, tree => enclose stack (.object ((key, tree) :: members).reverse)

/-- The text stops being JSON here. -/
def fail (stack : List Frame) : State := ⟨stack, .failed ⟨enclose stack .broken, false⟩⟩

/-- A value is complete. -/
def deliver (stack : List Frame) (value : Tree) : State :=
  match stack with
  | [] => ⟨[], .finished value⟩
  | .array items :: stack => ⟨.array (value :: items) :: stack, .separator⟩
  | .object members :: stack =>
    match value with
    | .string _ => ⟨.member members value :: stack, .colon⟩
    | _ => ⟨stack, .failed ⟨enclose (.object members :: stack) value, false⟩⟩
  | .member members key :: stack => ⟨.object ((key, value) :: members) :: stack, .separator⟩

/-- Whether a character is a blank between tokens. -/
def isBlank (char : Char) : Bool := char = ' ' || char = '\n' || char = '\t' || char = '\r'

/-- The value of a decimal digit. -/
def digit? (char : Char) : Option Nat :=
  if '0' ≤ char ∧ char ≤ '9' then some (char.toNat - 48) else none

/-- The value of a hexadecimal digit. -/
def hexDigit? (char : Char) : Option Nat :=
  if '0' ≤ char ∧ char ≤ '9' then some (char.toNat - 48)
  else if 'a' ≤ char ∧ char ≤ 'f' then some (char.toNat - 87)
  else if 'A' ≤ char ∧ char ≤ 'F' then some (char.toNat - 55)
  else none

/-- A value begins with this character. -/
def begin (stack : List Frame) (char : Char) : State :=
  match char with
  | '"' => ⟨stack, .string []⟩
  | '[' => ⟨.array [] :: stack, .opened⟩
  | '{' => ⟨.object [] :: stack, .opened⟩
  | 't' => ⟨stack, .word ['r', 'u', 'e'] (.bool true)⟩
  | 'f' => ⟨stack, .word ['a', 'l', 's', 'e'] (.bool false)⟩
  | 'n' => ⟨stack, .word ['u', 'l', 'l'] .null⟩
  | '-' => ⟨stack, .number ⟨true, [], [], false, []⟩ .minus⟩
  | _ =>
    match digit? char with
    | some 0 => ⟨stack, .number ⟨false, [0], [], false, []⟩ .zero⟩
    | some digit => ⟨stack, .number ⟨false, [digit], [], false, []⟩ .whole⟩
    | none => fail stack

/-- A closing bracket, which must fit what is open. -/
def close (stack : List Frame) (char : Char) : State :=
  match stack, char with
  | .array items :: outer, ']' => deliver outer (.array items.reverse)
  | .object members :: outer, '}' => deliver outer (.object members.reverse)
  | _, _ => fail stack

/-- The next character of a number, or none where the number ends or breaks off. -/
def extend (draft : Draft) (stage : Stage) (char : Char) : Option (Draft × Stage) :=
  match stage, digit? char with
  | .minus, some 0 => some ({ draft with whole := [0] }, .zero)
  | .minus, some digit | .whole, some digit =>
    some ({ draft with whole := digit :: draft.whole }, .whole)
  | .point, some digit | .fraction, some digit =>
    some ({ draft with fraction := digit :: draft.fraction }, .fraction)
  | .mark, some digit | .sign, some digit | .exponent, some digit =>
    some ({ draft with exponent := digit :: draft.exponent }, .exponent)
  | .mark, none =>
    if char = '+' then some (draft, .sign)
    else if char = '-' then some ({ draft with inverse := true }, .sign)
    else none
  | .zero, none | .whole, none =>
    if char = '.' then some (draft, .point)
    else if char = 'e' ∨ char = 'E' then some (draft, .mark)
    else none
  | .fraction, none => if char = 'e' ∨ char = 'E' then some (draft, .mark) else none
  | _, _ => none

/-- The numeral that was read, if it may end here before this character. -/
def numeral? (draft : Draft) (stage : Stage) (next : Option Char) : Option Numeral :=
  let fraction := if draft.fraction = [] then none else some draft.fraction.reverse
  match stage with
  | .zero => if (next.bind digit?).isSome then none else some ⟨draft.negative, [0], none, none⟩
  | .whole => some ⟨draft.negative, draft.whole.reverse, none, none⟩
  | .fraction => some ⟨draft.negative, draft.whole.reverse, fraction, none⟩
  | .exponent =>
    some ⟨draft.negative, draft.whole.reverse, fraction,
      some (draft.inverse, draft.exponent.reverse)⟩
  | _ => none

/-- The code point of an escape by letter. -/
def escape? (char : Char) : Option Nat :=
  match char with
  | '"' => some 34
  | '\\' => some 92
  | '/' => some 47
  | 'b' => some 8
  | 'f' => some 12
  | 'n' => some 10
  | 'r' => some 13
  | 't' => some 9
  | _ => none

/-- A character where no word, string or number is being read. -/
def between (state : State) (char : Char) : State :=
  match state.mode with
  | .value => if isBlank char then state else begin state.stack char
  | .opened =>
    if isBlank char then state
    else if char = ']' ∨ char = '}' then close state.stack char
    else begin state.stack char
  | .separator =>
    if isBlank char then state
    else if char = ',' then ⟨state.stack, .value⟩
    else close state.stack char
  | .colon =>
    if isBlank char then state
    else if char = ':' then ⟨state.stack, .value⟩
    else fail state.stack
  | .finished tree => if isBlank char then state else ⟨state.stack, .failed ⟨tree, false⟩⟩
  | _ => state

/-- Takes a character. -/
def step (state : State) (char : Char) : State :=
  let stack := state.stack
  match state.mode with
  | .word [] _ => fail stack
  | .word [letter] value => if char = letter then deliver stack value else fail stack
  | .word (letter :: letters) value =>
    if char = letter then ⟨stack, .word letters value⟩ else fail stack
  | .string units =>
    if char = '"' then deliver stack (.string ((spell units.reverse).map String.ofList))
    else if char = '\\' then ⟨stack, .escape units⟩
    else if char.toNat < 32 then fail stack
    else ⟨stack, .string (char.toNat :: units)⟩
  | .escape units =>
    if char = 'u' then ⟨stack, .unicode units 4 0⟩
    else
      match escape? char with
      | some unit => ⟨stack, .string (unit :: units)⟩
      | none => fail stack
  | .unicode units digits value =>
    match hexDigit? char with
    | some digit =>
      if digits ≤ 1 then ⟨stack, .string ((16 * value + digit) :: units)⟩
      else ⟨stack, .unicode units (digits - 1) (16 * value + digit)⟩
    | none => fail stack
  | .number draft stage =>
    match extend draft stage char with
    | some (draft, stage) => ⟨stack, .number draft stage⟩
    | none =>
      match numeral? draft stage (some char) with
      | some numeral => between (deliver stack (.number numeral)) char
      | none => fail stack
  | _ => between state char

/-- The text ends here. -/
def finish (state : State) : Document :=
  match state.mode with
  | .finished tree => ⟨tree, true⟩
  | .failed document => document
  | .number draft stage =>
    match numeral? draft stage none with
    | some numeral =>
      match deliver state.stack (.number numeral) with
      | ⟨_, .finished tree⟩ => ⟨tree, true⟩
      | ⟨_, .failed document⟩ => document
      | ⟨stack, _⟩ => ⟨enclose stack .broken, false⟩
    | none => ⟨enclose state.stack .broken, false⟩
  | _ => ⟨enclose state.stack .broken, false⟩

end State

/-- Reads a text. -/
def Document.ofChars (chars : List Char) : Document := (chars.foldl State.step .start).finish

/-- Reads a text. -/
def Document.ofText (text : String) : Document := .ofChars text.toList

end EnclaveChain.Json
