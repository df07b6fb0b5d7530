import RouteSync.Decimal.Shortest

/-! How formats write a binary number in decimal. -/
namespace RouteSync.Decimal

def zeros (n : Nat) : String := String.ofList (List.replicate n '0')

/-- Without an exponent, with a point and at least one digit on both sides of it. -/
def Scaled.positional (d : Scaled) : String :=
  if 0 ≤ d.exponent then toString d.digits ++ zeros d.exponent.toNat ++ ".0"
  else
    let ds := (toString d.digits).toList
    let places := (-d.exponent).toNat
    if places < ds.length then
      String.ofList (ds.take (ds.length - places)) ++ "." ++
        String.ofList (ds.drop (ds.length - places))
    else "0." ++ zeros (places - ds.length) ++ String.ofList ds

/-- The exponent of the first digit. -/
def Scaled.order (d : Scaled) : Int := d.exponent + digitCount d.digits - 1

/-- One digit before the point, and an exponent with its sign. -/
def Scaled.scientific (d : Scaled) : String :=
  let mantissa := match (toString d.digits).toList with
    | [] => ""
    | [c] => String.ofList [c]
    | c :: rest => String.ofList (c :: '.' :: rest)
  let sign := if d.order < 0 then "-" else "+"
  mantissa ++ "e" ++ sign ++ toString d.order.natAbs

/-- How a format settles ties, and where it goes over to exponents: orders from `least` on and below
`limit` have none. -/
structure Style where
  tie : Tie
  least : Option Int := none
  limit : Option Int := none

def Scaled.text (style : Style) (d : Scaled) : String :=
  let small := style.least.any fun least => d.order < least
  let large := style.limit.any fun limit => limit ≤ d.order
  if d.digits ≠ 0 && (small || large) then d.scientific else d.positional

def Binary64.text (style : Style) : Binary64 → String
  | .finite negative m => (if negative then "-" else "") ++ (m.shortest style.tie).text style
  | .infinite negative => if negative then "-inf" else "inf"
  | .notANumber => "NaN"

end RouteSync.Decimal
