/-! Reading UTF-8 that may be broken. -/
namespace RouteSync.Text.Utf8

/-- A piece of a byte text: a character, or the longest start of one that does not go on. -/
inductive Piece where
  | char (c : Char)
  | broken (size : Nat)
  deriving DecidableEq, Inhabited

/-- A character some bytes of which are read: `more` follow, the next within `low` and `high`. -/
structure Open where
  value : Nat
  size : Nat
  more : Nat
  low : UInt8
  high : UInt8
  deriving Inhabited

/-- The first byte of a character settles how many follow and where the second may lie. -/
def start (b : UInt8) : Piece ⊕ Open :=
  let n := b.toNat
  if n < 0x80 then .inl (.char (Char.ofNat n))
  else if n < 0xC2 then .inl (.broken 1)
  else if n < 0xE0 then .inr ⟨n - 0xC0, 1, 1, 0x80, 0xBF⟩
  else if n < 0xF0 then
    .inr ⟨n - 0xE0, 1, 2, if n = 0xE0 then 0xA0 else 0x80, if n = 0xED then 0x9F else 0xBF⟩
  else if n < 0xF5 then
    .inr ⟨n - 0xF0, 1, 3, if n = 0xF0 then 0x90 else 0x80, if n = 0xF4 then 0x8F else 0xBF⟩
  else .inl (.broken 1)

/-- What is read so far: the pieces, last first, and a character under way. -/
structure Progress where
  pieces : List Piece := []
  under : Option Open := none

def Progress.begin (p : Progress) (b : UInt8) : Progress :=
  match start b with
  | .inl piece => ⟨piece :: p.pieces, none⟩
  | .inr o => ⟨p.pieces, some o⟩

def Progress.step (p : Progress) (b : UInt8) : Progress :=
  match p.under with
  | none => p.begin b
  | some o =>
    if o.low ≤ b && b ≤ o.high then
      let value := o.value * 64 + (b.toNat - 0x80)
      if o.more = 1 then ⟨.char (Char.ofNat value) :: p.pieces, none⟩
      else ⟨p.pieces, some ⟨value, o.size + 1, o.more - 1, 0x80, 0xBF⟩⟩
    else Progress.begin ⟨.broken o.size :: p.pieces, none⟩ b

def Progress.finish (p : Progress) : List Piece :=
  match p.under with
  | none => p.pieces.reverse
  | some o => (.broken o.size :: p.pieces).reverse

def pieces (bytes : List UInt8) : List Piece := (bytes.foldl Progress.step {}).finish

def Piece.char? : Piece → Option Char
  | .char c => some c
  | .broken _ => none

/-- Every broken piece shows as one replacement character. -/
def lossy (bytes : List UInt8) : String :=
  String.ofList ((pieces bytes).map fun piece => piece.char?.getD '\ufffd')

/-- The text, if every byte belongs to a character. -/
def strict? (bytes : List UInt8) : Option String :=
  ((pieces bytes).mapM Piece.char?).map String.ofList

def bytes (s : String) : List UInt8 := s.toUTF8.toList

end RouteSync.Text.Utf8
