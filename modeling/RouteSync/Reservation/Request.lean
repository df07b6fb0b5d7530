import RouteSync.Http.MediaType
import RouteSync.Http.Message
import RouteSync.Reservation.Ports
import RouteSync.Route.Wire

/-! Requests that bind external ports to servers, each port with all of its servers. -/
namespace RouteSync.Reservation

open Json

structure Host where
  address : String
  port : UInt32
  deriving DecidableEq, Inhabited

structure Binding where
  port : UInt32
  hosts : List Host
  deriving DecidableEq, Inhabited

structure HostDraft where
  address : Option String := none
  port : Option UInt32 := none

def HostDraft.host (d : HostDraft) : Host := ⟨d.address.getD "", d.port.getD 0⟩

def Host.shape : Shape HostDraft where
  name := "struct BackendHostInfo"
  start := {}
  fields := [
    .of "backend_ip" true (·.address) (fun v d => { d with address := some v }) string,
    .of "backend_port" true (·.port) (fun v d => { d with port := some v }) uint32]

def Host.read (steps : Nat) : Reader Host := HostDraft.host <$> Host.shape.read steps

structure BindingDraft where
  port : Option UInt32 := none
  hosts : Option (List Host) := none

def BindingDraft.binding (d : BindingDraft) : Binding := ⟨d.port.getD 0, d.hosts.getD []⟩

def Binding.shape (steps : Nat) : Shape BindingDraft where
  name := "struct ExternalPortMapping"
  start := {}
  fields := [
    .of "external_port" true (·.port) (fun v d => { d with port := some v }) uint32,
    .of "backends" false (·.hosts) (fun v d => { d with hosts := some v })
      (list steps (Host.read steps))]

def Binding.read (steps : Nat) : Reader Binding :=
  BindingDraft.binding <$> (Binding.shape steps).read steps

/-- Why a request was refused. -/
inductive Refusal where
  | mediaType
  | tooLarge
  | malformed
  | mismatch (path : List Decode.Step) (what : Decode.Mismatch)
  | outOfRange (what : String) (value : UInt32)
  | notReservable (port : UInt16)
  | noAddress (port : UInt16)
  | badAddress (text : String)
  deriving DecidableEq, Inhabited

def Refusal.message : Refusal → String
  | .mediaType => "Expected request with `Content-Type: application/json`"
  | .tooLarge => "Failed to buffer the request body: length limit exceeded"
  | .malformed => "Failed to parse the request body as JSON"
  | .mismatch path what =>
    "Failed to deserialize the JSON body into the target type: " ++
      (if path.isEmpty then "" else Decode.pathText path ++ ": ") ++ what.message
  | .outOfRange what value => what ++ " " ++ toString value.toNat ++ " is out of range (1-65535)"
  | .notReservable port =>
    "external_port " ++ toString port.toNat ++ " is not in a reservable port range"
  | .noAddress port => "backend_ip is empty for external_port " ++ toString port.toNat
  | .badAddress text => "backend_ip " ++ Text.quoted text ++ " is not an IP address or hostname"

/-- No body may be longer than so many bytes. -/
def maxBody : Nat := 2097152

def bindings (body : List UInt8) : Except Refusal (List Binding) :=
  let input := signsOfBytes body
  match document (list input.length (Binding.read input.length)) input with
  | .ok bs => .ok bs
  | .error (.mismatch path what) => .error (.mismatch path what)
  | .error _ => .error .malformed

def holdsJson (r : Http.Request) : Bool :=
  ((r.contentType.bind Http.MediaType.ofString?).map Http.MediaType.isJson).getD false

/-- What a request asks for. -/
def requested (r : Http.Request) : Except Refusal (List Binding) :=
  if !holdsJson r then .error .mediaType
  else if maxBody < r.body.length then .error .tooLarge
  else bindings r.body

def portNamed (what : String) (n : UInt32) : Except Refusal UInt16 :=
  match port? n with
  | some port => .ok port
  | none => .error (.outOfRange what n)

def Host.server (port : UInt16) (h : Host) : Except Refusal Server :=
  if Text.allBlank h.address then .error (.noAddress port)
  else if !Net.isAddress h.address then .error (.badAddress h.address)
  else (portNamed "backend_port" h.port).map (Server.plain h.address)

/-- The route of a binding takes every connection to its port that no host name claims. -/
def Binding.route (ports : Ports) (b : Binding) : Except Refusal (Key × List Server) := do
  let port ← portNamed "external_port" b.port
  if !ports.allows port then throw (.notReservable port)
  return (⟨port, ""⟩, ← b.hosts.mapM (Host.server port))

/-- The first binding at fault decides. -/
def routes (ports : Ports) (bs : List Binding) : Except Refusal (List (Key × List Server)) :=
  bs.mapM (Binding.route ports)

end RouteSync.Reservation
