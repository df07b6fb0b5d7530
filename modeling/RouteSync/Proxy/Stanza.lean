import RouteSync.Route.Key

/-! The stanzas that a proxy reads: what they hold and how they are written. -/
namespace RouteSync.Proxy

/-- A server is asked for a certificate in the name of its instance. -/
structure Tls where
  instanceName : String
  authority : String
  certificate : Option String
  deriving DecidableEq, Inhabited

structure ServerLine where
  address : String
  port : Nat
  tls : Option Tls
  deriving DecidableEq, Inhabited

/-- Where the connections of one key go. -/
structure Backend where
  key : Key
  servers : List ServerLine
  deriving DecidableEq, Inhabited

/-- A port that is listened on, with one backend for each of its keys. -/
structure Frontend where
  port : UInt16
  backends : List Backend
  deriving DecidableEq, Inhabited

def Tls.text (t : Tls) : String :=
  " ssl verify required verifyhost " ++ t.instanceName ++ " ca-file " ++ t.authority ++
    (t.certificate.map (" crt " ++ ·)).getD ""

def ServerLine.text (s : ServerLine) : String :=
  "server server_" ++ s.address ++ "_" ++ toString s.port ++ " " ++ s.address ++ ":" ++
    toString s.port ++ (s.tls.map Tls.text).getD ""

/-- The name of the backend of a key. -/
def backendName (k : Key) : String :=
  if k.host.isEmpty then "backend_" ++ toString k.port.toNat
  else "backend_" ++ toString k.port.toNat ++ "_" ++ k.host

/-- The line that sends connections to a backend: all others, or those that ask for its host. -/
def Backend.choice (b : Backend) : String :=
  if b.key.host.isEmpty then "  default_backend " ++ backendName b.key
  else "  use_backend " ++ backendName b.key ++ " if \x7b req.ssl_sni " ++ b.key.host ++ " \x7d"

def Backend.lines (b : Backend) : List String :=
  ["", "backend " ++ backendName b.key, "  mode tcp"] ++ b.servers.map fun s => "  " ++ s.text

/-- The start of a connection is read where some backend is chosen by its host. -/
def Frontend.inspects (f : Frontend) : Bool := f.backends.any fun b => !b.key.host.isEmpty

def inspection : List String :=
  ["  tcp-request inspect-delay 5s",
    "  tcp-request content accept if \x7b req.ssl_hello_type gt 0 \x7d"]

def Frontend.lines (f : Frontend) : List String :=
  ["", "frontend frontend_" ++ toString f.port.toNat, "  mode tcp",
    "  bind :" ++ toString f.port.toNat] ++
    (if f.inspects then inspection else []) ++ f.backends.map Backend.choice ++
    f.backends.flatMap Backend.lines

/-- Every line ends with a line feed. -/
def configText (fs : List Frontend) : String :=
  String.join ((fs.flatMap Frontend.lines).map (· ++ "\n"))

end RouteSync.Proxy
