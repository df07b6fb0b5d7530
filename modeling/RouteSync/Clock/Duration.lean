/-! Spans of time in words. -/
namespace RouteSync.Clock

/-- A span of whole milliseconds. -/
abbrev Duration := Nat

def seconds (n : Nat) : Duration := n * 1000

def padded (n : Nat) : List Char :=
  let ds := (toString n).toList
  List.replicate (3 - ds.length) '0' ++ ds

/-- The thousandths after a point, without zeros at the end. -/
def fraction (n : Nat) : String :=
  if n = 0 then ""
  else "." ++ String.ofList ((padded n).reverse.dropWhile (· = '0')).reverse

/-- In seconds from one second on, else in milliseconds; no span at all is written in the smallest
unit. -/
def text (d : Duration) : String :=
  if 1000 ≤ d then toString (d / 1000) ++ fraction (d % 1000) ++ "s"
  else if d = 0 then "0ns"
  else toString d ++ "ms"

end RouteSync.Clock
