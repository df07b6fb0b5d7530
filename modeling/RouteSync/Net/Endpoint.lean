import RouteSync.Net.Ip

/-! An address and a port to listen on. -/
namespace RouteSync.Net

/-- The scope tells links apart; only addresses of eight groups carry one. -/
structure Endpoint where
  address : Ip
  scope : Nat := 0
  port : Nat
  deriving DecidableEq, Inhabited

/-- A decimal number up to `limit`, leading zeros allowed. -/
def number? (limit : Nat) (cs : List Char) : Option (Nat × List Char) :=
  match digits 10 cs with
  | ([], _) => none
  | (ds, rest) => if valueOf 10 ds ≤ limit then some (valueOf 10 ds, rest) else none

def port? (cs : List Char) : Option (Nat × List Char) := do number? 65535 (← char? ':' cs)

def endpointV4? (cs : List Char) : Option (Endpoint × List Char) := do
  let (a, cs) ← ipv4? cs
  let (port, cs) ← port? cs
  some (⟨.v4 a, 0, port⟩, cs)

def scope? (cs : List Char) : Option (Nat × List Char) := do number? 4294967295 (← char? '%' cs)

def endpointV6? (cs : List Char) : Option (Endpoint × List Char) := do
  let (a, cs) ← ipv6? (← char? '[' cs)
  let (scope, cs) := (scope? cs).getD (0, cs)
  let (port, cs) ← port? (← char? ']' cs)
  some (⟨.v6 a, scope, port⟩, cs)

def Endpoint.ofString? (s : String) : Option Endpoint :=
  match (endpointV4? s.toList).orElse fun _ => endpointV6? s.toList with
  | some (e, []) => some e
  | _ => none

def Endpoint.text (e : Endpoint) : String :=
  match e.address with
  | .v4 a => a.text ++ ":" ++ toString e.port
  | .v6 a =>
    let scope := if e.scope = 0 then "" else "%" ++ toString e.scope
    "[" ++ a.text ++ scope ++ "]:" ++ toString e.port

end RouteSync.Net
