import EnclaveChain.Url.Ipv4

/-!
# Addresses of version 6

An address of eight pieces of two bytes, in hexadecimal between colons. A double colon stands once
for pieces that are zero, at least one of them, and the last two pieces may be written as an address
of four decimal bytes.
-/
namespace EnclaveChain.Ipv6

/-- The texts between the colons of an address. -/
def splitColons : List Char → List (List Char)
  | [] => [[]]
  | char :: chars =>
    if char = ':' then [] :: splitColons chars
    else
      match splitColons chars with
      | [] => [[char]]
      | piece :: pieces => (char :: piece) :: pieces

/-- The piece that up to four digits name. -/
def piece? (digits : List Char) : Option Nat :=
  if digits = [] ∨ 4 < digits.length then none else Ipv4.digits? 16 digits

/-- The byte that decimal digits name, without a zero in front. -/
def byte? (digits : List Char) : Option Nat :=
  if digits = [] ∨ (digits.head? = some '0' ∧ 1 < digits.length) then none
  else
    match Ipv4.digits? 10 digits with
    | some value => if value < 256 then some value else none
    | none => none

/-- The two pieces that four bytes name. -/
def bytes? (text : List Char) : Option (List Nat) :=
  match (Domain.splitDots text).mapM byte? with
  | some [first, second, third, fourth] => some [256 * first + second, 256 * third + fourth]
  | _ => none

/-- The pieces of some texts, the last of which may name four bytes. -/
def pieces? : List (List Char) → Option (List Nat)
  | [] => some []
  | [last] => if last.contains '.' then bytes? last else (piece? last).map fun piece => [piece]
  | text :: texts =>
    match piece? text, pieces? texts with
    | some piece, some pieces => some (piece :: pieces)
    | _, _ => none

/-- The pieces of an address in which a double colon stands between texts. -/
def filled? (before after : List (List Char)) : Option (List Nat) :=
  match before.mapM piece?, pieces? (if after = [[]] then [] else after) with
  | some front, some back =>
    let count := front.length + back.length
    if count < 8 then some (front ++ List.replicate (8 - count) 0 ++ back) else none
  | _, _ => none

/-- The eight pieces of an address. -/
def ofText? (text : List Char) : Option (List Nat) :=
  match splitColons text with
  | [] :: [] :: after => if after = [] then none else filled? [] after
  | texts =>
    match texts.span (· ≠ []) with
    | (_, []) =>
      match pieces? texts with
      | some pieces => if pieces.length = 8 then some pieces else none
      | none => none
    | (before, _ :: after) => if before = [] ∨ after = [] then none else filled? before after

/-- Whether an address leads back to this machine: it is the number one. -/
def isLoopback (pieces : List Nat) : Bool := pieces = [0, 0, 0, 0, 0, 0, 0, 1]

end EnclaveChain.Ipv6
