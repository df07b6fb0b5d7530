import RouteSync.Reservation.Ports
import RouteSync.Settings.Fields
import RouteSync.Toml.Document

/-! Reading settings and judging them. All that is wrong with them is told at once. -/
namespace RouteSync.Settings

inductive Problem where
  | url (text : String)
  | noTokenEndpoint
  | noClient
  | noBaseFile (path : Disk.Path)
  | noLivePath
  | noScriptPath
  | noAuthority
  | noPause (key : String)
  | ports (error : Reservation.PortsError)
  deriving DecidableEq, Inhabited

def Problem.text : Problem → String
  | .url text => "routing_api.url must be an http(s) URL, got '" ++ text ++ "'"
  | .noTokenEndpoint => "oauth.token_endpoint is required when auth is enabled"
  | .noClient => "oauth.client_id is required when auth is enabled"
  | .noBaseFile path => "haproxy.base_config_path " ++ path ++ " does not exist"
  | .noLivePath => "haproxy.config_path is required"
  | .noScriptPath => "haproxy.reload_script_path is required"
  | .noAuthority => "backend_tls.ca_cert_path is required when backend TLS is enabled"
  | .noPause key => "intervals." ++ key ++ " must be greater than 0"
  | .ports error => "admin.reservable_ports: " ++ error.message

def isWebAddress (url : List Char) : Bool :=
  "http://".toList.isPrefixOf url || "https://".toList.isPrefixOf url

/-- The problem, where the condition holds. -/
def problemIf (condition : Bool) (p : Problem) : List Problem := if condition then [p] else []

def Source.problems (s : Source) : List Problem :=
  problemIf (!isWebAddress (Text.trim s.url.toList)) (.url (Text.trimmed s.url))

def Login.problems (l : Login) : List Problem :=
  problemIf (Text.allBlank l.endpoint) .noTokenEndpoint ++
    problemIf (Text.allBlank l.client) .noClient

def Files.problems (f : Files) (d : Disk) : List Problem :=
  problemIf (!d.isFile f.basePath) (.noBaseFile f.basePath) ++
    problemIf f.livePath.isEmpty .noLivePath ++ problemIf f.scriptPath.isEmpty .noScriptPath

def tlsProblems (p : Proxy.TlsPolicy) : List Problem :=
  problemIf (p.enabled && Text.allBlank p.authority) .noAuthority

def Pace.problems (p : Pace) : List Problem :=
  problemIf (p.sync = 0) (.noPause "sync_secs") ++
    problemIf (p.prune = 0) (.noPause "prune_secs") ++
    problemIf (p.retry = 0) (.noPause "subscription_retry_secs")

def Desk.problems (d : Desk) : List Problem :=
  match Reservation.Ports.ofString d.ports with
  | .ok _ => []
  | .error e => [.ports e]

/-- What is wrong with settings, in the order of the document's parts. -/
def problems (s : Settings) (d : Disk) : List Problem :=
  s.source.problems ++ (if s.source.authenticated then s.login.problems else []) ++
    s.files.problems d ++ tlsProblems s.tls ++ s.pace.problems ++ s.desk.problems

inductive Fault where
  | unreadable (path : Disk.Path) (why : Disk.Fault)
  | document (text : String) (fault : Toml.Fault)
  | misfit (text : String) (what : Toml.Misfit)
  | invalid (problems : List Problem)
  deriving Inhabited

/-- A fault in a document, with its place. -/
def report (text : String) (fault : Toml.Fault) : String :=
  Toml.report text fault.left fault.cause.message

/-- A value that does not fit, with its place; what the document as a whole lacks is told at its
start. -/
def misfitReport (text : String) (misfit : Toml.Misfit) : String :=
  Toml.report text (misfit.left.getD text.length) misfit.what.message

def Fault.message : Fault → String
  | .unreadable path why => "failed to read config file " ++ path ++ ": " ++ why.text
  | .document text fault => "failed to parse config file: " ++ report text fault
  | .misfit text what => "failed to parse config file: " ++ misfitReport text what
  | .invalid problems => "invalid configuration: " ++ ", ".intercalate (problems.map Problem.text)

/-- What is behind a fault, if anything is. -/
def Fault.cause? : Fault → Option String
  | .unreadable _ why => some why.text
  | .document text fault => some (report text fault)
  | .misfit text what => some (misfitReport text what)
  | .invalid _ => none

/-- The message with the cause behind it. -/
def Fault.chain (f : Fault) : String :=
  f.message ++ (f.cause?.map (": " ++ ·)).getD ""

/-- What a text says, right or wrong. -/
def parse (text : String) : Except Fault Settings := do
  let entries ← (Toml.document text).mapError (.document text)
  (record.ofEntries entries).mapError (.misfit text)

/-- Settings out of a text. The disk tells which files are there. -/
def ofText (d : Disk) (text : String) : Except Fault Settings := do
  let s ← parse text
  match s.problems d with
  | [] => return s
  | problems => throw (.invalid problems)

def load (d : Disk) (path : Disk.Path) : Except Fault Settings := do
  let text ← (d.readText path).mapError (.unreadable path)
  ofText d text

end RouteSync.Settings
