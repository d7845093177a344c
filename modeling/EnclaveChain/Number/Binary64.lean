import EnclaveChain.Number.Power

/-!
# Magnitudes of double precision

A finite double without its sign is an integer significand below `2 ^ 53` times a power of two
from `2 ^ -1074` on. Every operation here is the exact one followed by one rounding to the nearest
such magnitude, a tie going to the even significand; a result beyond the largest magnitude is
none at all.
-/
namespace EnclaveChain.Number

/-- A magnitude: `significand * 2 ^ exponent`. -/
structure Magnitude where
  /-- Integer significand. -/
  significand : Nat
  /-- Power of two. -/
  exponent : Int
deriving DecidableEq, Repr

/-- The integer nearest to a quotient; a tie goes to the even one. -/
def roundQuotient (num den : Nat) : Nat :=
  let floor := num / den
  let rest := 2 * (num % den)
  if rest < den ∨ rest = den ∧ floor % 2 = 0 then floor else floor + 1

/-- A quotient divided by a power of two, as a quotient. -/
def shifted (num den : Nat) (exponent : Int) : Nat × Nat :=
  (num * 2 ^ (-exponent).toNat, den * 2 ^ exponent.toNat)

namespace Magnitude

/-- The magnitude zero. -/
def zero : Magnitude := ⟨0, -1074⟩

/-- The magnitude nearest to a quotient, unless it is too large. -/
def ofQuotient? (num den : Nat) : Option Magnitude :=
  if num = 0 then some zero
  else
    let guess : Int := max (Int.ofNat num.log2 - Int.ofNat den.log2 - 53) (-1074)
    let trial := shifted num den guess
    let exponent := if trial.1 / trial.2 < 2 ^ 53 then guess else guess + 1
    let scaled := shifted num den exponent
    let rounded := roundQuotient scaled.1 scaled.2
    let result : Magnitude :=
      if rounded = 2 ^ 53 then ⟨2 ^ 52, exponent + 1⟩ else ⟨rounded, exponent⟩
    if 971 < result.exponent then none else some result

/-- A magnitude as a quotient of integers. -/
def quotient (value : Magnitude) : Nat × Nat :=
  (value.significand * 2 ^ value.exponent.toNat, 2 ^ (-value.exponent).toNat)

/-- The magnitude nearest to an integer. -/
def ofNat? (value : Nat) : Option Magnitude := ofQuotient? value 1

/-- The magnitude nearest to a product. -/
def mul? (left right : Magnitude) : Option Magnitude :=
  ofQuotient? (left.quotient.1 * right.quotient.1) (left.quotient.2 * right.quotient.2)

/-- The magnitude nearest to a quotient of magnitudes. -/
def div? (left right : Magnitude) : Option Magnitude :=
  ofQuotient? (left.quotient.1 * right.quotient.2) (left.quotient.2 * right.quotient.1)

end Magnitude

end EnclaveChain.Number
