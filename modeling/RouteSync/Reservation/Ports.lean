import RouteSync.Text.Blank
import RouteSync.Text.Digits
import RouteSync.Text.Split

/-! The ports that may be reserved, written as `1024-1033,2000`. -/
namespace RouteSync.Reservation

structure PortRange where
  low : UInt16
  high : UInt16
  low_ne_zero : low ≠ 0
  low_le_high : low ≤ high
  deriving DecidableEq

namespace PortRange

def covers (r : PortRange) (port : UInt16) : Bool := r.low ≤ port && port ≤ r.high

/-- The range in its shortest spelling. -/
def text (r : PortRange) : String :=
  if r.low = r.high then toString r.low.toNat
  else toString r.low.toNat ++ "-" ++ toString r.high.toNat

end PortRange

/-- With no range given every port may be reserved. -/
structure Ports where
  ranges : List PortRange
  deriving DecidableEq

namespace Ports

def any : Ports := ⟨[]⟩

instance : Inhabited Ports := ⟨any⟩

def isEmpty (p : Ports) : Bool := p.ranges.isEmpty

def allows (p : Ports) (port : UInt16) : Bool :=
  p.ranges.isEmpty || p.ranges.any (·.covers port)

end Ports

inductive PortsError where
  | port (text : String)
  | range (text : String)
  deriving DecidableEq, Inhabited

def PortsError.message : PortsError → String
  | .port text => "invalid port '" ++ text ++ "'"
  | .range text => "invalid port range '" ++ text ++ "'"

/-- A number in decimal digits after an optional plus sign. -/
def decimal? : List Char → Option Nat
  | '+' :: rest => Text.natural? rest
  | cs => Text.natural? cs

/-- A port other than zero, with white space around it. -/
def portOf (cs : List Char) : Except PortsError { port : UInt16 // port ≠ 0 } :=
  match decimal? (Text.trim cs) with
  | none => .error (.port (Text.trimmed (String.ofList cs)))
  | some n =>
    if h : n < 65536 ∧ n.toUInt16 ≠ 0 then .ok ⟨n.toUInt16, h.2⟩
    else .error (.port (Text.trimmed (String.ofList cs)))

/-- A port, or two of them in order around the first hyphen. -/
def PortRange.ofPart (part : List Char) : Except PortsError PortRange :=
  match Text.splitFirst? '-' part with
  | none => do
    let ⟨port, h⟩ ← portOf part
    return ⟨port, port, h, UInt16.le_refl port⟩
  | some (before, after) => do
    let ⟨low, h⟩ ← portOf before
    let ⟨high, _⟩ ← portOf after
    if le : low ≤ high then return ⟨low, high, h, le⟩
    else throw (.range (String.ofList part))

/-- The parts between commas, less white space and those that are nothing else. -/
def parts (s : String) : List (List Char) :=
  ((Text.splitOn ',' s.toList).map Text.trim).filter (· ≠ [])

/-- The first faulty part from the left decides the error. -/
def Ports.ofString (s : String) : Except PortsError Ports := do
  return ⟨← (parts s).mapM PortRange.ofPart⟩

end RouteSync.Reservation
