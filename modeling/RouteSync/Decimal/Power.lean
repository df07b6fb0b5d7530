/-! Powers of the bases of binary and decimal numbers. -/
namespace RouteSync.Decimal

def pow2 (n : Nat) : Nat := Nat.pow 2 n

def pow10 (n : Nat) : Nat := Nat.pow 10 n

end RouteSync.Decimal
