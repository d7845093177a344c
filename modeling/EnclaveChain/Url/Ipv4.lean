import EnclaveChain.Domain.Name
import EnclaveChain.Number.Power

/-!
# Addresses of version 4

A host whose last part is a number is an address of four bytes. Its parts are decimal, or octal
behind a zero, or hexadecimal behind `0x`, and the last part fills all the bytes that the parts
before it leave.
-/
namespace EnclaveChain.Ipv4

/-- The value of a digit of a base, if it is one. -/
def digit? (base : Nat) (char : Char) : Option Nat :=
  if char.toNat < 128 then
    match Hex.digitValue? char.toNat.toUInt8 with
    | some value => if value.toNat < base then some value.toNat else none
    | none => none
  else none

/-- The value of digits of a base, if all are. -/
def digits? (base : Nat) (digits : List Char) : Option Nat :=
  digits.foldlM (fun value char => (digit? base char).map (base * value + ·)) 0

/-- The number that a part of an address names. -/
def number? : List Char → Option Nat
  | [] => none
  | '0' :: 'x' :: digits | '0' :: 'X' :: digits => digits? 16 digits
  | '0' :: digit :: digits => digits? 8 (digit :: digits)
  | digits => digits? 10 digits

/-- The parts of an address; a dot at the end adds none. -/
def parts (name : List Char) : List (List Char) :=
  let parts := Domain.splitDots name
  if 1 < parts.length ∧ parts.getLast? = some [] then parts.dropLast else parts

/-- Whether a name is to be read as an address: its last part is a number, or all decimal digits. -/
def isAddress (name : List Char) : Bool :=
  match (parts name).getLast? with
  | none | some [] => false
  | some last => last.all Char.isDigit || (number? last).isSome

/-- The address of some numbers, the last of which fills the bytes left. -/
def combine? (numbers : List Nat) : Option Nat :=
  match numbers.reverse with
  | [] => none
  | last :: before =>
    if numbers.length ≤ 4 ∧ before.all (· < 256) ∧ last < 256 ^ (4 - before.length) then
      some (before.reverse.foldl (fun value byte => 256 * value + byte) 0 *
        256 ^ (4 - before.length) + last)
    else none

/-- The address that a name gives. -/
def ofText? (name : List Char) : Option Nat :=
  match (parts name).mapM number? with
  | none => none
  | some numbers => combine? numbers

/-- Whether an address leads back to this machine: its first byte is 127. -/
def isLoopback (address : Nat) : Bool := address / 256 ^ 3 = 127

end EnclaveChain.Ipv4
