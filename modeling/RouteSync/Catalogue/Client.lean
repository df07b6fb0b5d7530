import RouteSync.Stream.Subscription

/-! The catalogue as it is asked: for a listing, or for a stream of events. -/
namespace RouteSync.Catalogue

open Http

structure Client where
  base : String
  token : String := ""
  deriving DecidableEq, Inhabited

/-- What was asked for, and the calls made for it. -/
structure Asked (α : Type) where
  answer : Except SourceError α
  calls : List Call := []

namespace Client

def ofUrl (url : String) : Client := ⟨Http.base url, ""⟩

def useToken (c : Client) (token : String) : Client := { c with token }

/-- No token is shown where there is none. -/
def authorization (c : Client) : Option String :=
  if c.token.isEmpty then none else some ("bearer " ++ c.token)

def call (c : Client) (path accept : String) : Call where
  method := "GET"
  url := c.base ++ path
  authorization := c.authorization
  accept

/-- A reply that grants what was asked for; any other is an error that keeps its body. -/
def granted : Except CallFault Reply → Except SourceError Reply
  | .error _ => .error .transport
  | .ok reply =>
    if succeeds reply.status then .ok reply
    else if reply.status = 401 then .error (.unauthorized reply.text)
    else .error (.status reply.status reply.text)

/-- Makes a call, unless the token cannot be sent at all. -/
def ask (c : Client) (send : Send) (path accept : String) : Asked Reply :=
  let call := c.call path accept
  if call.authorization.all fitsHeader then ⟨granted (send call), [call]⟩
  else ⟨.error .transport, []⟩

def listPath : String := "/routing/v1/tcp_routes"
def eventsPath : String := listPath ++ "/events"

def listing (reply : Reply) : Except SourceError (List Mapping) :=
  match reply.bytes? with
  | none => .error .transport
  | some bytes => (Mapping.listOfJson? bytes).mapError .decode

/-- Every mapping of the catalogue. -/
def list (c : Client) (send : Send) : Asked (List Mapping) :=
  let asked := c.ask send listPath "*/*"
  ⟨asked.answer.bind listing, asked.calls⟩

/-- The stream of events from now on. -/
def subscribe (c : Client) (send : Send) : Asked Stream.Subscription :=
  let asked := c.ask send eventsPath "text/event-stream"
  ⟨asked.answer.map fun reply => { body := some reply.body }, asked.calls⟩

end Client
end RouteSync.Catalogue
