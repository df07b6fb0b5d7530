/-! Bytes written in sixty-four characters. -/
namespace RouteSync.Text.Base64

def letters : List Char :=
  "ABCDEFGHIJKLMNOPQRSTUVWXYZabcdefghijklmnopqrstuvwxyz0123456789+/".toList

def letter (n : Nat) : Char := letters.getD (n % 64) '='

/-- The first letters of so many bits, six bits each. -/
def lettersOf (bits count : Nat) : List Char :=
  (List.range count).map fun i => letter (bits / Nat.pow 64 (3 - i))

/-- Three bytes make four letters; the last group is filled up with equals signs. -/
def encode : List UInt8 → List Char
  | [] => []
  | [a] => lettersOf (a.toNat * 65536) 2 ++ ['=', '=']
  | [a, b] => lettersOf (a.toNat * 65536 + b.toNat * 256) 3 ++ ['=']
  | a :: b :: c :: rest =>
    lettersOf (a.toNat * 65536 + b.toNat * 256 + c.toNat) 4 ++ encode rest

end RouteSync.Text.Base64
