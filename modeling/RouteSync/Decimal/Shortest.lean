import RouteSync.Decimal.Binary64

/-! The fewest decimal digits that read back as a given binary number. -/
namespace RouteSync.Decimal

/-- `digits * 10 ^ exponent` with the digits as one number. -/
structure Scaled where
  digits : Nat
  exponent : Int
  deriving DecidableEq, Inhabited

/-- The fractions that round to a magnitude, over one denominator; `closed` tells about the ends. -/
structure Interval where
  low : Nat
  value : Nat
  high : Nat
  den : Nat
  closed : Bool

/-- Half the way to both neighbours; the ends belong to the number whose mantissa is even. -/
def Magnitude.interval (m : Magnitude) : Interval :=
  let (num, den) := Magnitude.fraction ⟨4 * m.mantissa, m.exponent⟩
  let (unit, _) := Magnitude.fraction ⟨1, m.exponent⟩
  let narrow := m.mantissa = pow2 (Magnitude.precision - 1) ∧ Magnitude.leastExponent < m.exponent
  ⟨num - (if narrow then unit else 2 * unit), num, num + 2 * unit, 4 * den, m.mantissa % 2 = 0⟩

/-- Whether `k * 10 ^ e` lies in the interval. -/
def Interval.holds (i : Interval) (k : Nat) (e : Int) : Bool :=
  let (k, s) := if 0 ≤ e then (k * pow10 e.toNat, 1) else (k, pow10 (-e).toNat)
  if i.closed then i.low * s ≤ k * i.den && k * i.den ≤ i.high * s
  else i.low * s < k * i.den && k * i.den < i.high * s

/-- Which of two equally near numbers is taken. -/
inductive Tie where
  | even
  | larger
  deriving DecidableEq, Inhabited

/-- A quotient of whole numbers to the nearest one. -/
def Tie.nearest (tie : Tie) (num den : Nat) : Nat :=
  match tie with
  | .even => Magnitude.nearestEven num den
  | .larger => (2 * num + den) / (2 * den)

/-- The nearest multiple of `10 ^ e` in the interval. -/
def Interval.onGrid? (i : Interval) (tie : Tie) (e : Int) : Option Scaled :=
  let (num, den) :=
    if 0 ≤ e then (i.value, i.den * pow10 e.toNat) else (i.value * pow10 (-e).toNat, i.den)
  let below := num / den
  let near := tie.nearest num den
  let far := if near = below then below + 1 else below
  if i.holds near e then some ⟨near, e⟩
  else if i.holds far e then some ⟨far, e⟩
  else none

/-- The number of decimal digits. -/
def digitCount (n : Nat) : Nat := (Nat.toDigits 10 n).length

/-- The exponent of the leading digit of a quotient, or one more. -/
def leadingExponent (num den : Nat) : Int := (digitCount num : Int) - digitCount den

def trailingZeros : Nat → Nat → Nat × Nat
  | 0, n => (n, 0)
  | fuel + 1, n =>
    if n ≠ 0 ∧ n % 10 = 0 then
      let (m, k) := trailingZeros fuel (n / 10)
      (m, k + 1)
    else (n, 0)

def Scaled.trimmed (d : Scaled) : Scaled :=
  let (m, k) := trailingZeros (digitCount d.digits) d.digits
  ⟨m, d.exponent + k⟩

/-- The coarsest decimal grid with a point in the interval gives the fewest digits. -/
def Magnitude.shortest (tie : Tie) (m : Magnitude) : Scaled :=
  if m.mantissa = 0 then ⟨0, 0⟩
  else
    let i := m.interval
    let lead := leadingExponent i.value i.den
    let found := (List.range 20).findSome? fun (n : Nat) => i.onGrid? tie (lead - n)
    (found.getD ⟨0, 0⟩).trimmed

end RouteSync.Decimal
