import RouteSync.Decimal.Power

/-! Binary floating point of 64 bits, computed exactly with whole numbers. -/
namespace RouteSync.Decimal

/-- The finite magnitude `mantissa * 2 ^ exponent`. -/
structure Magnitude where
  mantissa : Nat
  exponent : Int
  deriving DecidableEq, Inhabited

namespace Magnitude

/-- The bits of a mantissa, and the exponents of the least and of the greatest numbers. -/
def precision : Nat := 53
def leastExponent : Int := -1074
def greatestExponent : Int := 971

def zero : Magnitude := ⟨0, leastExponent⟩

/-- A fraction as numerator and denominator. -/
def fraction (m : Magnitude) : Nat × Nat :=
  if 0 ≤ m.exponent then (m.mantissa * pow2 m.exponent.toNat, 1)
  else (m.mantissa, pow2 (-m.exponent).toNat)

/-- A quotient of whole numbers to the nearest one, a half to the even neighbour. -/
def nearestEven (num den : Nat) : Nat :=
  let q := num / den
  let r := num % den
  if den < 2 * r ∨ (2 * r = den ∧ q % 2 = 1) then q + 1 else q

/-- The quotient of `num` and `den * 2 ^ e` to the nearest whole number. -/
def scaled (num den : Nat) (e : Int) : Nat :=
  if 0 ≤ e then nearestEven num (den * pow2 e.toNat) else nearestEven (num * pow2 (-e).toNat) den

/-- The nearest magnitude to a quotient, a half to the even one; none where it is too large. -/
def ofQuotient? (num den : Nat) : Option Magnitude :=
  if num = 0 then some zero
  else
    let estimate : Int := (Nat.log2 num : Int) - Nat.log2 den - precision
    let e := max estimate leastExponent
    let e := if scaled num den e < pow2 precision then e else e + 1
    let m := scaled num den e
    let (m, e) := if m < pow2 precision then (m, e) else (m / 2, e + 1)
    if e ≤ greatestExponent then some ⟨m, e⟩ else none

def ofNat (n : Nat) : Magnitude := (ofQuotient? n 1).getD zero

def mul? (a b : Magnitude) : Option Magnitude :=
  ofQuotient? (a.fraction.1 * b.fraction.1) (a.fraction.2 * b.fraction.2)

/-- Division by a magnitude other than zero. -/
def div? (a b : Magnitude) : Option Magnitude :=
  ofQuotient? (a.fraction.1 * b.fraction.2) (a.fraction.2 * b.fraction.1)

end Magnitude

/-- A number with a sign, which zero has too. -/
inductive Binary64 where
  | finite (negative : Bool) (magnitude : Magnitude)
  | infinite (negative : Bool)
  | notANumber
  deriving DecidableEq, Inhabited

end RouteSync.Decimal
