import EnclaveChain.Number.Power

/-!
# Punycode

A label may be written in ASCII alone. Its ASCII characters come first, and behind the last hyphen
stand numbers that say where the others go and what they are, each as the distance from the one
before. A number is written low digit first, in digits of 36 values, and the digit that ends it is
told by a threshold that adapts to the numbers read so far.
-/
namespace EnclaveChain.Domain.Punycode

/-- The value of a digit. -/
def digit? (char : Char) : Option Nat :=
  if 'a' ≤ char ∧ char ≤ 'z' then some (char.toNat - 97)
  else if '0' ≤ char ∧ char ≤ '9' then some (char.toNat - 22)
  else none

/-- The threshold at a place: a digit below it ends its number. -/
def threshold (place bias : Nat) : Nat :=
  if place ≤ bias then 1 else if bias + 26 ≤ place then 26 else place - bias

/-- The bias that belongs to a distance of a given size. -/
def biasOf (size : Nat) : Nat :=
  if 455 < size then 36 + biasOf (size / 35) else 36 * size / (size + 38)
termination_by size
decreasing_by exact Nat.div_lt_self (by omega) (by omega)

/-- The bias after a number. -/
def adapt (number length : Nat) (first : Bool) : Nat :=
  let size := if first then number / 700 else number / 2
  biasOf (size + size / length)

/-- How far a label has been read. -/
structure Progress where
  /-- The characters so far. -/
  text : List Char
  /-- The code point of the last character put in. -/
  code : Nat
  /-- The place after that character. -/
  position : Nat
  /-- The bias of the thresholds. -/
  bias : Nat
  /-- The number that is being read, as far as it goes. -/
  number : Nat
  /-- What the next digit of it counts. -/
  weight : Nat
  /-- The place of the next digit of it, in steps of 36. -/
  place : Nat
deriving DecidableEq, Repr

namespace Progress

/-- The beginning, with the ASCII characters of a label. -/
def start (text : List Char) : Progress := ⟨text, 128, 0, 72, 0, 1, 36⟩

/-- Puts in the character that the number just read stands for. -/
def insert? (progress : Progress) (number : Nat) : Option Progress :=
  let length := progress.text.length + 1
  let place := progress.position + number
  let code := progress.code + place / length
  if code.isValidChar then
    let bias := adapt number length (progress.position = 0)
    let text := progress.text.insertIdx (place % length) (Char.ofNat code)
    some ⟨text, code, place % length + 1, bias, 0, 1, 36⟩
  else none

/-- Reads a digit. -/
def read? (progress : Progress) (digit : Nat) : Option Progress :=
  let number := progress.number + digit * progress.weight
  let threshold := threshold progress.place progress.bias
  if digit < threshold then progress.insert? number
  else
    let weight := progress.weight * (36 - threshold)
    if weight < 2 ^ 32 then
      some { progress with number := number, weight := weight, place := progress.place + 36 }
    else none

/-- Reads digits up to the end of a number. -/
def readAll? : Progress → List Char → Option (List Char)
  | progress, [] => if progress.place = 36 then some progress.text else none
  | progress, char :: chars =>
    match (digit? char).bind progress.read? with
    | some progress => readAll? progress chars
    | none => none

end Progress

/-- The characters in front of the last hyphen, if there are any, and the digits behind it. -/
def parts (label : List Char) : List Char × List Char :=
  match label.reverse.span (· ≠ '-') with
  | (digits, _ :: ascii) =>
    if ascii = [] then ([], label) else (ascii.reverse, digits.reverse)
  | _ => ([], label)

/-- The label that an ASCII label stands for. -/
def decode? (label : List Char) : Option (List Char) :=
  let (ascii, digits) := parts label
  (Progress.start ascii).readAll? digits

end EnclaveChain.Domain.Punycode
