import EnclaveChain.Json.Tree

/-!
# What a numeral denotes

A plain integer that fits 64 bits denotes itself. Every other numeral denotes a magnitude of double
precision, computed from as many leading digits as fit 64 bits by one multiplication or division
with a power of ten. The last place can therefore differ from the nearest magnitude, and a
magnitude beyond the largest is no value.
-/
namespace EnclaveChain.Json

open Number

/-- The value of a numeral. -/
inductive NumberValue where
  /-- A natural number of at most 64 bits. -/
  | natural (value : Nat)
  /-- A negative integer of at most 64 bits, by its absolute value. -/
  | negative (value : Nat)
  /-- A sign and a magnitude of double precision. -/
  | real (negative : Bool) (magnitude : Magnitude)
  /-- No value: the magnitude is too large. -/
  | tooLarge
deriving Repr

/-- The largest number of 64 bits. -/
def maxWord : Nat := 2 ^ 64 - 1

/-- The number that decimal digits spell. -/
def ofDigits (digits : List Nat) : Nat := digits.foldl (fun value digit => 10 * value + digit) 0

/-- Adds leading digits while the number fits 64 bits; the digits left over come second. -/
def takeDigits (value : Nat) : List Nat → Nat × List Nat
  | [] => (value, [])
  | digit :: digits =>
    if maxWord < 10 * value + digit then (value, digit :: digits)
    else takeDigits (10 * value + digit) digits

/-- A power of ten of double precision. -/
def powerOfTen (exponent : Nat) : Magnitude := (Magnitude.ofNat? (10 ^ exponent)).getD .zero

/-- A magnitude divided by powers of ten; no power beyond `10 ^ 308` is used at once. -/
def divideByTens : Nat → Magnitude → Nat → Magnitude
  | 0, _, _ => .zero
  | steps + 1, value, exponent =>
    if exponent ≤ 308 then (value.div? (powerOfTen exponent)).getD .zero
    else divideByTens steps ((value.div? (powerOfTen 308)).getD .zero) (exponent - 308)

/-- A number times a power of ten, unless it is too large. -/
def scaleByTens? (significand : Nat) (exponent : Int) : Option Magnitude :=
  match Magnitude.ofNat? significand with
  | none => none
  | some value =>
    if exponent < 0 then some (divideByTens 4 value exponent.natAbs)
    else if significand = 0 then some .zero
    else if 308 < exponent then none
    else value.mul? (powerOfTen exponent.natAbs)

namespace Numeral

/-- The power of ten that a numeral names. -/
def power (numeral : Numeral) : Int :=
  match numeral.exponent with
  | none => 0
  | some (true, digits) => Int.negOfNat (ofDigits digits)
  | some (false, digits) => Int.ofNat (ofDigits digits)

/-- The value of a numeral as a magnitude of double precision. -/
def toReal (numeral : Numeral) : NumberValue :=
  let leading := takeDigits 0 numeral.whole
  let dropped := leading.2.length
  let fraction := numeral.fraction.getD []
  let all := takeDigits leading.1 fraction
  let places := fraction.length - all.2.length
  match scaleByTens? all.1 (numeral.power + Int.ofNat dropped - Int.ofNat places) with
  | some magnitude => .real numeral.negative magnitude
  | none => .tooLarge

/-- The value of a numeral. A minus sign before zero asks for a sign that integers do not have. -/
def value (numeral : Numeral) : NumberValue :=
  match numeral.fraction, numeral.exponent with
  | none, none =>
    let integer := ofDigits numeral.whole
    if maxWord < integer then numeral.toReal
    else if numeral.negative then
      if integer = 0 ∨ 2 ^ 63 < integer then .real true ((Magnitude.ofNat? integer).getD .zero)
      else .negative integer
    else .natural integer
  | _, _ => numeral.toReal

end Numeral

/-- The layout of real numbers in messages: positional from `10 ^ -5` to below `10 ^ 16`, always
with a point there, and else one digit before the point and a signed power of ten. -/
def layOut (decimal : Decimal) : List Char :=
  let digits := Nat.toDigits 10 decimal.digits
  let length := Int.ofNat digits.length
  let point := length + decimal.exponent
  if 0 ≤ decimal.exponent ∧ point ≤ 16 then
    digits ++ List.replicate decimal.exponent.toNat '0' ++ ['.', '0']
  else if 0 < point ∧ point ≤ 16 then
    digits.take point.toNat ++ ['.'] ++ digits.drop point.toNat
  else if -5 < point ∧ point ≤ 0 then
    ['0', '.'] ++ List.replicate (-point).toNat '0' ++ digits
  else
    let mantissa := if digits.length = 1 then digits else digits.take 1 ++ ['.'] ++ digits.drop 1
    let sign := if 0 < point then ['+'] else ['-']
    mantissa ++ ['e'] ++ sign ++ Nat.toDigits 10 (point - 1).natAbs

/-- The text of a real number. -/
def realText (negative : Bool) (magnitude : Magnitude) : String :=
  (if negative then "-" else "") ++ String.ofList (layOut magnitude.shortest)

end EnclaveChain.Json
