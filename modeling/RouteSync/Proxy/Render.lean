import RouteSync.Net.Address
import RouteSync.Proxy.Stanza
import RouteSync.Table.Basic

/-! From what the table holds to the stanzas of the proxy. What cannot be written safely is left
out and reported. -/
namespace RouteSync.Proxy

/-- How servers are spoken to over TLS. -/
structure TlsPolicy where
  enabled : Bool := false
  authority : String := ""
  certificate : Option String := none
  deriving DecidableEq, Inhabited

/-- Why a key is left out. -/
inductive KeyFault where
  | port
  | host
  deriving DecidableEq, Inhabited

def KeyFault.of? (k : Key) : Option KeyFault :=
  if !k.valid then some .port
  else if !k.host.isEmpty && !Net.isHostName k.host then some .host
  else none

def KeyFault.record (k : Key) : KeyFault → Log.Record
  | .port => Log.error ("Dropping route " ++ k.text ++ ": invalid inbound port.")
  | .host =>
    Log.error
      ("Dropping route " ++ k.text ++ ": invalid SNI hostname " ++ Text.quoted k.host ++ ".")

/-- Why a server is left out. -/
inductive ServerFault where
  | incomplete
  | address
  | tlsDisabled
  | noInstance
  | badInstance
  deriving DecidableEq, Inhabited

def tlsPlace (s : Server) : String := s.address ++ ":" ++ toString s.tlsPort.toInt

def ServerFault.message (k : Key) (s : Server) : ServerFault → String
  | .incomplete =>
    "Dropping backend " ++ Text.quoted s.address ++ ":" ++ toString s.port.toNat ++ " of " ++
      k.text ++ ": address and port are required."
  | .address =>
    "Dropping backend of " ++ k.text ++ ": invalid address " ++ Text.quoted s.address ++ "."
  | .tlsDisabled =>
    "backend-tls-not-enabled: skipping backend " ++ s.place ++ " of " ++ k.text ++
      " with TLS port " ++ toString s.tlsPort.toInt ++ "."
  | .noInstance =>
    "Dropping backend " ++ tlsPlace s ++ " of " ++ k.text ++
      ": backend_configuration.instance_id = unset"
  | .badInstance =>
    "Dropping backend " ++ tlsPlace s ++ " of " ++ k.text ++ ": invalid instance id " ++
      Text.quoted s.instanceName ++ "."

namespace TlsPolicy

def tls (p : TlsPolicy) (s : Server) : Tls := ⟨s.instanceName, p.authority, p.certificate⟩

/-- The line of a server: over TLS where it has a TLS port, never in clear text then. -/
def line (p : TlsPolicy) (s : Server) : Except ServerFault ServerLine :=
  if s.address.isEmpty ∨ s.port = 0 then .error .incomplete
  else if !Net.isAddress s.address then .error .address
  else if 0 < s.tlsPort then
    if !p.enabled then .error .tlsDisabled
    else if s.instanceName.isEmpty then .error .noInstance
    else if !Net.isInstanceName s.instanceName then .error .badInstance
    else .ok ⟨s.address, s.tlsPort.toInt.toNat, some (p.tls s)⟩
  else .ok ⟨s.address, s.port.toNat, none⟩

/-- A server that is written, but in clear text for want of a word on TLS. -/
def lacksTls (p : TlsPolicy) (s : Server) : Bool := p.enabled && s.tlsPort = Server.tlsUnstated

def missingTls (k : Key) (s : Server) : Log.Record :=
  Log.error ("route-missing-tls-information: backend " ++ s.place ++ " of " ++ k.text ++
    " is served without TLS.")

def report (p : TlsPolicy) (k : Key) (s : Server) : List Log.Record :=
  match p.line s with
  | .error fault => [Log.error (fault.message k s)]
  | .ok _ => if p.lacksTls s then [missingTls k s] else []

def backend (p : TlsPolicy) (route : Key × List Server) : Backend :=
  ⟨route.1, route.2.filterMap fun s => (p.line s).toOption⟩

end TlsPolicy

/-- The routes that are written: no key at fault, no empty one. -/
def kept (s : Snapshot) : List (Key × List Server) :=
  s.entries.filter fun e => (KeyFault.of? e.1).isNone && !e.2.isEmpty

/-- Puts a route before those of its port, which stand first if there are any. -/
def groupUnder {α : Type} (e : Key × α) : List (UInt16 × List (Key × α)) →
    List (UInt16 × List (Key × α))
  | [] => [(e.1.port, [e])]
  | (port, es) :: groups =>
    if port = e.1.port then (port, e :: es) :: groups
    else (e.1.port, [e]) :: (port, es) :: groups

/-- Neighbours of the same port together. -/
def byPort {α : Type} (es : List (Key × α)) : List (UInt16 × List (Key × α)) :=
  es.foldr groupUnder []

structure Rendering where
  frontends : List Frontend
  log : List Log.Record

def Rendering.text (r : Rendering) : String := configText r.frontends

/-- Keys are judged before servers. -/
def TlsPolicy.render (p : TlsPolicy) (s : Snapshot) : Rendering where
  frontends := (byPort (kept s)).map fun (port, routes) => ⟨port, routes.map p.backend⟩
  log :=
    s.entries.filterMap (fun e => (KeyFault.of? e.1).map (KeyFault.record e.1)) ++
      (kept s).flatMap fun e => e.2.flatMap (p.report e.1)

end RouteSync.Proxy
