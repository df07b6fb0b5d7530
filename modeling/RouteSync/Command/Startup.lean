import RouteSync.Catalogue.Client
import RouteSync.Command.Options
import RouteSync.Credential.Source
import RouteSync.Log.Filter
import RouteSync.Net.Listen
import RouteSync.Settings.Load

/-! From the command line to the point where routes begin to flow, or the reason why they do not. -/
namespace RouteSync.Command

/-- A log record and the part of the program that it comes from. -/
structure Line where
  target : String
  record : Log.Record
  deriving DecidableEq, Inhabited

def program : String := "tcp_router"

def Line.own (record : Log.Record) : Line := ⟨program, record⟩

def Line.ofTokens (record : Log.Record) : Line := ⟨program ++ "::token", record⟩

/-- What a successful start leads to. -/
structure Ready where
  settings : Settings
  client : Catalogue.Client
  tokens : Credential.TokenSource
  deriving Inhabited

inductive StartFault where
  | settings (path : Disk.Path) (fault : Settings.Fault)
  | token (error : Credential.TokenError)
  /-- The address for the operator's requests cannot be taken. -/
  | desk (address : Net.Endpoint) (why : String)
  deriving Inhabited

def StartFault.message : StartFault → String
  | .settings path fault => "Failed to load configuration " ++ path ++ ": " ++ fault.chain
  | .token error => "Failed to fetch initial OAuth token: " ++ error.chain
  | .desk address why => "Failed to bind admin endpoint to " ++ address.text ++ ": " ++ why

structure Started where
  answer : Except StartFault Ready
  log : List Line

def greeting : Log.Record := Log.info "TCP Router - HAProxy based TCP routing"

def withoutTokens : Log.Record := Log.info "Routing API authentication is disabled."

/-- What the layer below says when it opens a connection. -/
def connecting (call : Http.Call) : List Line :=
  match Http.Url.ofText call.url with
  | .ok url => [⟨"reqwest::connect", Log.debug ("starting new connection: " ++ url.origin)⟩]
  | .error _ => []

def tokenSource (s : Settings) : Credential.TokenSource :=
  if s.source.authenticated then
    .keeper (.ofEndpoint s.login.endpoint s.login.client s.login.secret)
  else .free

/-- What a start finds: files, a way to call others, and a way to be called. -/
structure Surroundings where
  disk : Disk
  send : Http.Send
  listen : Net.Listen

/-- Settings first, then a first token, then the address for the operator's requests: without one of
them nothing is started. -/
def start (w : Surroundings) (path : Disk.Path) : Started :=
  match Settings.load w.disk path with
  | .error fault => ⟨.error (.settings path fault), [.own greeting]⟩
  | .ok settings =>
    let drawn := (tokenSource settings).fetch w.send false 0
    let notice := if settings.source.authenticated then [] else [.own withoutTokens]
    let log := .own greeting :: notice ++ drawn.log.map Line.ofTokens ++
      drawn.calls.flatMap connecting
    match drawn.answer with
    | .error error => ⟨.error (.token error), log⟩
    | .ok token =>
      let client := (Catalogue.Client.ofUrl settings.source.url).useToken token.text
      match settings.desk.listen.bind fun address => (w.listen address).map (address, ·) with
      | some (address, why) => ⟨.error (.desk address why), log⟩
      | none => ⟨.ok ⟨settings, client, drawn.after⟩, log⟩

def version : String := "tcp-router 0.1.0\n"

def usage : String := "Usage: tcp-router --config <CONFIG>\n"

def help : String :=
  "Keeps HAProxy TCP routes in sync with a routing API\n\n" ++ usage ++ "\nOptions:\n" ++
    "  -c, --config <CONFIG>  Path to the TOML configuration file [env: TCP_ROUTER_CONFIG=]\n" ++
    "  -h, --help             Print help\n" ++
    "  -V, --version          Print version\n"

/-- What the program is told. -/
structure Setting where
  args : List String
  /-- The path of the settings from the environment. -/
  path : Option Disk.Path := none
  /-- Which log records to show. -/
  filter : Option String := none

/-- What the program says, and how it ends if it does. -/
structure Outcome where
  output : String := ""
  complaint : String := ""
  log : List Line := []
  exit : Option Nat

/-- Records that the filter shows; by default those from info on. -/
def shown (filter : Option String) (log : List Line) : List Line :=
  let f := Log.Filter.ofText (filter.getD "info")
  log.filter fun line => f.shows line.target line.record

def run (w : Surroundings) (s : Setting) : Outcome :=
  match Invocation.ofArgs s.args s.path with
  | .help => { output := help, exit := some 0 }
  | .version => { output := version, exit := some 0 }
  | .misuse => { complaint := usage, exit := some 2 }
  | .run path =>
    let started := start w path
    match started.answer with
    | .ok _ => { log := shown s.filter started.log, exit := none }
    | .error fault =>
      let last := Line.own (Log.error ("Error: " ++ fault.message))
      { log := shown s.filter (started.log ++ [last]), exit := some 1 }

end RouteSync.Command
