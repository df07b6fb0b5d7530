import RouteSync.Text.Split

/-! Paths: names joined by slashes. -/
namespace RouteSync.Disk

abbrev Path := String

namespace Path

/-- The parts between slashes. -/
def parts (path : Path) : List String := (Text.splitOn '/' path.toList).map String.ofList

/-- A part that leads nowhere else. -/
def isIdle (part : String) : Bool := part = "" || part = "."

/-- Takes idle parts off the end, except the first of all. -/
def trimmed : List String → List String
  | [] => []
  | first :: rest => first :: (rest.reverse.dropWhile isIdle).reverse

/-- The path of the folder that the last part is in. -/
def folder (path : Path) : Path :=
  match trimmed (trimmed path.parts).dropLast with
  | [] => "."
  | [""] => "/"
  | parts => "/".intercalate parts

/-- What stands after the last slash, if a file can have it for a name. -/
def name? (path : Path) : Option String :=
  path.parts.getLast?.filter fun part => !isIdle part && part ≠ ".."

end Path
end RouteSync.Disk
