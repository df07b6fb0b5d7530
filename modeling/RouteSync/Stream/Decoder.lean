import RouteSync.Stream.Line

/-! Cutting an event stream into events, wherever its chunks end. -/
namespace RouteSync.Stream

/-- An event as it was sent. -/
structure RawEvent where
  name : String
  data : String
  deriving DecidableEq, Inhabited

/-- No line may be longer than so many bytes, its line feed not counted. -/
def maxLine : Nat := 1048576

def lineFeed : UInt8 := 10

/-- An open line and the fields of an open event, the data last first. After an overlong line
nothing is read any more. -/
structure Decoder where
  line : Array UInt8 := #[]
  name : Option String := none
  data : List String := []
  overlong : Bool := false
  deriving DecidableEq, Inhabited

namespace Decoder

/-- An event that has neither name nor data is none. -/
def dispatch? (d : Decoder) : Option RawEvent :=
  if d.name.isNone ∧ d.data.isEmpty then none
  else some ⟨d.name.getD "message", "\n".intercalate d.data.reverse⟩

/-- What a complete line does, and the event that it ends. -/
def take (d : Decoder) : Line → Decoder × Option RawEvent
  | .blank => ({ d with name := none, data := [] }, d.dispatch?)
  | .comment => (d, none)
  | .field name value =>
    if name = "event" then ({ d with name := some value }, none)
    else if name = "data" then ({ d with data := value :: d.data }, none)
    else (d, none)

/-- Reads one byte. -/
def feed (d : Decoder) (b : UInt8) : Decoder × Option RawEvent :=
  if d.overlong then (d, none)
  else if b = lineFeed then { d with line := #[] }.take (.ofBytes d.line.toList)
  else if d.line.size < maxLine then ({ d with line := d.line.push b }, none)
  else ({ d with overlong := true }, none)

/-- Reads one byte and puts the event that it ends before those found so far. -/
def feedInto (state : Decoder × List RawEvent) (b : UInt8) : Decoder × List RawEvent :=
  let (d, event?) := state.1.feed b
  match event? with
  | some e => (d, e :: state.2)
  | none => (d, state.2)

/-- The events that a chunk completes; none at all where an overlong line is met. -/
def push (d : Decoder) (chunk : List UInt8) : Decoder × Option (List RawEvent) :=
  let (d, found) := chunk.foldl feedInto (d, [])
  (d, if d.overlong then none else some found.reverse)

end Decoder
end RouteSync.Stream
