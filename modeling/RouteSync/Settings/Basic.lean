import RouteSync.Disk.Basic
import RouteSync.Net.Endpoint
import RouteSync.Proxy.Render

/-! What the settings document says. -/
namespace RouteSync

namespace Settings

/-- Where the catalogue is. -/
structure Source where
  url : String := ""
  /-- Whether it asks for tokens. -/
  authenticated : Bool := true
  unverified : Bool := false
  deriving DecidableEq, Inhabited

/-- Where tokens come from, and for whom. -/
structure Login where
  endpoint : String := ""
  client : String := ""
  secret : String := ""
  unverified : Bool := false
  deriving DecidableEq, Inhabited

/-- The files of the proxy. -/
structure Files where
  basePath : Disk.Path := ""
  livePath : Disk.Path := ""
  scriptPath : Disk.Path := ""
  drainSeconds : Nat := 0
  deriving DecidableEq, Inhabited

/-- How often things are done, in seconds. -/
structure Pace where
  sync : Nat := 60
  prune : Nat := 30
  /-- The pause before a lost subscription is opened again. -/
  retry : Nat := 5
  deriving DecidableEq, Inhabited

/-- Reservations are not served without a place to listen on. -/
structure Desk where
  listen : Option Net.Endpoint := none
  ports : String := ""
  deriving DecidableEq, Inhabited

end Settings

structure Settings where
  source : Settings.Source := {}
  login : Settings.Login := {}
  files : Settings.Files := {}
  tls : Proxy.TlsPolicy := {}
  pace : Settings.Pace := {}
  desk : Settings.Desk := {}
  deriving DecidableEq, Inhabited

end RouteSync
