import RouteSync.Net.Endpoint

/-! Taking an address to listen at. -/
namespace RouteSync.Net

/-- Why an address cannot be taken, if it cannot. -/
abbrev Listen := Endpoint → Option String

/-- The addresses of the machine itself, and those that stand for several machines. -/
def Ipv4.isOwn (a : Ipv4) : Bool :=
  match a.octets with
  | 127 :: _ | [0, 0, 0, 0] | [255, 255, 255, 255] => true
  | first :: _ => 224 ≤ first && first < 240
  | [] => false

/-- An address that is good on one link only. -/
def Ipv6.isOfLink (a : Ipv6) : Bool :=
  a.groups.head?.any fun g => g / 64 = 0xFE80 / 64 || g / 256 = 0xFF

def Ipv6.isOwn (a : Ipv6) : Bool :=
  match a.groups with
  | [0, 0, 0, 0, 0, 0xFFFF, g, h] => Ipv4.isOwn ⟨[g / 256, g % 256, h / 256, h % 256]⟩
  | groups => groups.all (· = 0)

/-- A machine without a network has no addresses but its own. -/
def alone : Listen := fun e =>
  let own : Bool := match e.address with
    | .v4 a => a.isOwn
    | .v6 a => a.isOwn
  let ofLink : Bool := match e.address with
    | .v4 _ => false
    | .v6 a => a.isOfLink && e.scope = 0
  if own then none
  else if ofLink then some "Invalid argument (os error 22)"
  else some "Cannot assign requested address (os error 99)"

end RouteSync.Net
