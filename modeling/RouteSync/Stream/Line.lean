import RouteSync.Text.Split
import RouteSync.Text.Utf8

/-! The lines of an event stream. -/
namespace RouteSync.Stream

/-- A blank line ends an event, and a line that starts with a colon says nothing. -/
inductive Line where
  | blank
  | comment
  | field (name value : String)
  deriving DecidableEq, Inhabited

def dropReturn (cs : List Char) : List Char :=
  if cs.getLast? = some '\r' then cs.dropLast else cs

/-- One space after the colon belongs to it. -/
def dropSpace : List Char → List Char
  | ' ' :: cs => cs
  | cs => cs

/-- A field is split at its first colon; without one it has the empty value. -/
def Line.ofChars (cs : List Char) : Line :=
  match cs with
  | [] => .blank
  | ':' :: _ => .comment
  | cs =>
    match Text.splitFirst? ':' cs with
    | some (name, value) => .field (String.ofList name) (String.ofList (dropSpace value))
    | none => .field (String.ofList cs) ""

/-- A carriage return at the end belongs to the line end. -/
def Line.ofBytes (bytes : List UInt8) : Line :=
  .ofChars (dropReturn (Text.Utf8.lossy bytes).toList)

end RouteSync.Stream
