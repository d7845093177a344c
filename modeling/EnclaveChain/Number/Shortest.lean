import EnclaveChain.Number.Binary64

/-!
# Shortest decimals

The decimal with the fewest digits among those that round to a given magnitude, and of these the
nearest to it. A magnitude is compared with the points of a decimal grid in quarters of its own
unit, so that both ends of the interval that rounds to it are integers.
-/
namespace EnclaveChain.Number

/-- A decimal: `digits * 10 ^ exponent`. -/
structure Decimal where
  /-- Digits as an integer. -/
  digits : Nat
  /-- Power of ten. -/
  exponent : Int
deriving DecidableEq, Repr

/-- The interval of numbers that round to a magnitude, in quarters of its unit. -/
structure Interval where
  /-- Lower end. -/
  low : Nat
  /-- The magnitude itself. -/
  middle : Nat
  /-- Upper end. -/
  high : Nat
  /-- Whether the ends belong to it. -/
  closed : Bool

/-- The interval of a magnitude: half a unit to both sides, a quarter below a power of two. -/
def Magnitude.interval (value : Magnitude) : Interval :=
  let middle := 4 * value.significand
  let below := if value.significand = 2 ^ 52 ∧ -1074 < value.exponent then 1 else 2
  ⟨middle - below, middle, middle + 2, value.significand % 2 = 0⟩

/-- A point of a decimal grid and a quarter unit, both as integers in a common unit. -/
def gridUnits (value : Magnitude) (exponent : Int) : Nat × Nat :=
  (10 ^ exponent.toNat * 2 ^ (2 - value.exponent).toNat,
    10 ^ (-exponent).toNat * 2 ^ (value.exponent - 2).toNat)

/-- Whether a point of a grid rounds to the magnitude of an interval. -/
def Interval.holds (interval : Interval) (units : Nat × Nat) (point : Nat) : Bool :=
  let position := point * units.1
  let low := interval.low * units.2
  let high := interval.high * units.2
  if interval.closed then low ≤ position && position ≤ high else low < position && position < high

/-- The point of the grid of an exponent that rounds to a magnitude, if there is one: the nearer of
its two neighbours, the even one when they are equally near. -/
def Magnitude.onGrid? (value : Magnitude) (exponent : Int) : Option Decimal :=
  let units := gridUnits value exponent
  let interval := value.interval
  let target := interval.middle * units.2
  let lower := target / units.1
  let upper := lower + 1
  let down := interval.holds units lower
  let up := interval.holds units upper
  if down && up then some ⟨roundQuotient target units.1, exponent⟩
  else if down then some ⟨lower, exponent⟩
  else if up then some ⟨upper, exponent⟩
  else none

/-- The power of ten of the first digit of a magnitude that is not zero. -/
def Magnitude.leadingExponent (value : Magnitude) : Int :=
  let fraction := value.quotient
  let whole := fraction.1 / fraction.2
  if whole = 0 then
    let places := (List.range 330).find? fun places => fraction.2 ≤ fraction.1 * 10 ^ places
    Int.negOfNat (places.getD 330)
  else Int.ofNat ((Nat.toDigits 10 whole).length - 1)

/-- A decimal without the zeros at the end of its digits, at most so many of them. -/
def Decimal.trim : Nat → Decimal → Decimal
  | 0, decimal => decimal
  | count + 1, decimal =>
    if decimal.digits ≠ 0 ∧ decimal.digits % 10 = 0 then
      trim count ⟨decimal.digits / 10, decimal.exponent + 1⟩
    else decimal

/-- The shortest decimal that rounds to a magnitude. -/
def Magnitude.shortest (value : Magnitude) : Decimal :=
  if value.significand = 0 then ⟨0, 0⟩
  else
    let leading := value.leadingExponent
    let found := (List.range 17).findSome? fun more => value.onGrid? (leading - Int.ofNat more)
    (found.getD ⟨0, 0⟩).trim 18

end EnclaveChain.Number
