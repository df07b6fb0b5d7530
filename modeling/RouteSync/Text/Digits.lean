/-! Decimal digits. -/
namespace RouteSync.Text

/-- The number written in decimal digits, at least one. -/
def natural? (cs : List Char) : Option Nat :=
  if cs ≠ [] ∧ cs.all Char.isDigit then
    some (cs.foldl (fun n c => n * 10 + (c.toNat - 48)) 0)
  else none

end RouteSync.Text
