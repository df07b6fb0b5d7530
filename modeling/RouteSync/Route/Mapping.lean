import RouteSync.Net.Address
import RouteSync.Route.Key
import RouteSync.Route.Server
import RouteSync.Text.Blank
import RouteSync.Text.Quoted

/-! Route mappings as the catalogue publishes them, and the routes that they describe. -/
namespace RouteSync

structure Mapping where
  routerGroup : String
  port : UInt32
  address : String
  serverPort : UInt32
  tlsPort : Option Int32
  instanceName : Option String
  host : Option String
  tag : Tag
  ttl : Option UInt64
  deriving DecidableEq, Inhabited

/-- Why a mapping describes no route. -/
inductive MappingError where
  | externalPort (port : UInt32)
  | serverPort (port : UInt32)
  | tlsPort (port : Int32)
  | emptyAddress
  | address (text : String)
  | instanceName (text : String)
  deriving DecidableEq, Inhabited

def MappingError.message : MappingError → String
  | .externalPort p => "external port out of valid range (1-65535): " ++ toString p.toNat
  | .serverPort p => "backend port out of valid range (1-65535): " ++ toString p.toNat
  | .tlsPort p => "backend TLS port out of valid range: " ++ toString p.toInt
  | .emptyAddress => "backend address is empty"
  | .address text => "backend address is not an IP address or hostname: " ++ Text.quoted text
  | .instanceName text => "instance id contains unsupported characters: " ++ Text.quoted text

/-- A port other than zero that fits in sixteen bits. -/
def port? (n : UInt32) : Option UInt16 :=
  if n ≠ 0 ∧ n < 65536 then some n.toUInt16 else none

namespace Mapping

def key (m : Mapping) : Except MappingError Key :=
  match port? m.port with
  | some port => .ok ⟨port, m.host.getD ""⟩
  | none => .error (.externalPort m.port)

def tlsPortOrUnstated (m : Mapping) : Int32 := m.tlsPort.getD Server.tlsUnstated

/-- A TLS port may be missing an instance name: such a server is kept and left out when rendered. -/
def server (m : Mapping) : Except MappingError Server :=
  if Text.allBlank m.address then .error .emptyAddress
  else if !Net.isAddress m.address then .error (.address m.address)
  else match port? m.serverPort with
    | none => .error (.serverPort m.serverPort)
    | some port =>
      if m.tlsPortOrUnstated < Server.tlsDeclined ∨ 65535 < m.tlsPortOrUnstated then
        .error (.tlsPort m.tlsPortOrUnstated)
      else if !Net.isInstanceName (m.instanceName.getD "") then
        .error (.instanceName (m.instanceName.getD ""))
      else .ok ⟨m.address, port, m.tlsPortOrUnstated, m.instanceName.getD "", m.tag, m.ttl.getD 0⟩

/-- The key is judged before the server. -/
def route (m : Mapping) : Except MappingError (Key × Server) := do
  let key ← m.key
  let server ← m.server
  return (key, server)

end Mapping
end RouteSync
