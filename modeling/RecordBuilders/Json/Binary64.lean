import RecordBuilders.Json.Basic

/-! The double precision number nearest to a decimal, computed exactly. Of two equally near ones
the even one counts. -/
namespace RecordBuilders

/-- `mantissa * 2 ^ exponent`. -/
structure Dyadic where
  mantissa : Int
  exponent : Int
  deriving Repr, DecidableEq

namespace Dyadic

/-- The mantissa of the number when its exponent is lowered to `low`. -/
def mantissaAt (d : Dyadic) (low : Int) : Int := d.mantissa * Int.pow 2 (d.exponent - low).toNat

/-- Whether two numbers are the same, whatever their exponents. -/
def same (a b : Dyadic) : Bool :=
  let low := if a.exponent ≤ b.exponent then a.exponent else b.exponent
  a.mantissaAt low == b.mantissaAt low

def ofInt (n : Int) : Dyadic := ⟨n, 0⟩

end Dyadic

namespace Binary64

/-- The quotient rounded to the nearest integer, half to even. -/
def roundDiv (num den : Nat) : Nat :=
  let q := num / den
  let twice := 2 * (num % den)
  if twice < den ∨ (twice = den ∧ q % 2 = 0) then q else q + 1

/-- `num / (den * 2 ^ exponent)` as a fraction of natural numbers. -/
def scale (num den : Nat) (exponent : Int) : Nat × Nat :=
  (num <<< (-exponent).toNat, den <<< exponent.toNat)

def leastExponent : Int := -1074

def greatestExponent : Int := 971

/-- The exponent at which the mantissa of `num / den` has 53 binary digits, but never below that
of the least positive number. -/
def exponentOf (num den : Nat) : Int :=
  let guess : Int := (num.log2 : Int) - den.log2 - 52
  let (n, d) := scale num den guess
  let exponent := if n / d < 1 <<< 52 then guess - 1 else guess
  if exponent < leastExponent then leastExponent else exponent

/-- The nearest number to a positive fraction, unless it lies beyond the largest one. -/
def ofFraction (num den : Nat) : Option Dyadic :=
  let exponent := exponentOf num den
  let (n, d) := scale num den exponent
  let mantissa := roundDiv n d
  if greatestExponent < exponent ∨ (exponent = greatestExponent ∧ 1 <<< 53 ≤ mantissa) then none
  else some ⟨mantissa, exponent⟩

/-- Decimals far out of range are settled by the number of their digits. -/
def ofMagnitude (digits : Nat) (exponent : Int) : Option Dyadic :=
  let magnitude := ((toString digits).length : Int) + exponent
  if digits = 0 ∨ magnitude < -330 then some ⟨0, 0⟩
  else if magnitude > 310 then none
  else ofFraction (digits * Nat.pow 10 exponent.toNat) (Nat.pow 10 (-exponent).toNat)

end Binary64
end RecordBuilders
