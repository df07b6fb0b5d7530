import RouteSync.Json.Value
import RouteSync.Json.Writer
import RouteSync.Route.Event
import RouteSync.Text.Utf8

/-! The written form of mappings and actions. -/
namespace RouteSync

open Json

/-- The signs of a text. -/
def Json.signs (s : String) : List Sign := s.toList.map some

/-- The signs of a byte text: every byte that belongs to no character is one of its own. -/
def Json.signsOfBytes (bytes : List UInt8) : List Sign :=
  (Text.Utf8.pieces bytes).flatMap fun
    | .char c => [some c]
    | .broken size => List.replicate size none

structure TagDraft where
  guid : Option String := none
  index : Option UInt32 := none

def TagDraft.tag (d : TagDraft) : Tag := ⟨d.guid.getD "", d.index.getD 0⟩

def Tag.shape : Shape TagDraft where
  name := "struct ModificationTag"
  start := {}
  fields := [
    .of "guid" false (·.guid) (fun v d => { d with guid := some v }) string,
    .of "index" false (·.index) (fun v d => { d with index := some v }) uint32]

def Tag.read (steps : Nat) : Reader Tag := TagDraft.tag <$> Tag.shape.read steps

/-- The fields of a mapping as they are met; an optional one may be met and be null. -/
structure MappingDraft where
  routerGroup : Option String := none
  port : Option UInt32 := none
  address : Option String := none
  serverPort : Option UInt32 := none
  tlsPort : Option (Option Int32) := none
  instanceName : Option (Option String) := none
  host : Option (Option String) := none
  tag : Option Tag := none
  ttl : Option (Option UInt64) := none

def MappingDraft.mapping (d : MappingDraft) : Mapping where
  routerGroup := d.routerGroup.getD ""
  port := d.port.getD 0
  address := d.address.getD ""
  serverPort := d.serverPort.getD 0
  tlsPort := d.tlsPort.join
  instanceName := d.instanceName.join
  host := d.host.join
  tag := d.tag.getD Tag.initial
  ttl := d.ttl.join

namespace Mapping

def shape (steps : Nat) : Shape MappingDraft where
  name := "struct TcpRouteMapping"
  start := {}
  fields := [
    .of "router_group_guid" false (·.routerGroup) (fun v d => { d with routerGroup := some v })
      string,
    .of "port" true (·.port) (fun v d => { d with port := some v }) uint32,
    .of "backend_ip" true (·.address) (fun v d => { d with address := some v }) string,
    .of "backend_port" true (·.serverPort) (fun v d => { d with serverPort := some v })
      uint32,
    .of "host_tls_port" false (·.tlsPort) (fun v d => { d with tlsPort := some v })
      (optional int32),
    .of "instance_id" false (·.instanceName) (fun v d => { d with instanceName := some v })
      (optional string),
    .of "sni_hostname" false (·.host) (fun v d => { d with host := some v })
      (optional string),
    .of "modification_tag" false (·.tag) (fun v d => { d with tag := some v })
      (Tag.read steps),
    .of "ttl" false (·.ttl) (fun v d => { d with ttl := some v }) (optional uint64)]

def read (steps : Nat) : Reader Mapping := MappingDraft.mapping <$> (shape steps).read steps

def ofSigns? (input : List Sign) : Except Fault Mapping := document (read input.length) input

def ofJson? (s : String) : Except Fault Mapping := ofSigns? (signs s)

/-- A list of mappings, as the catalogue answers it. -/
def listOfJson? (bytes : List UInt8) : Except Fault (List Mapping) :=
  let input := signsOfBytes bytes
  document (list input.length (read input.length)) input

end Mapping

def Tag.json (t : Tag) : String :=
  objectText [member "guid" (quote t.guid), member "index" (toString t.index.toNat)]

/-- Optional fields are left out where they are absent, all others are written. -/
def Mapping.json (m : Mapping) : String :=
  objectText [
    member "router_group_guid" (quote m.routerGroup),
    member "port" (toString m.port.toNat),
    member "backend_ip" (quote m.address),
    member "backend_port" (toString m.serverPort.toNat),
    ("host_tls_port", m.tlsPort.map fun p => toString p.toInt),
    ("instance_id", m.instanceName.map quote),
    ("sni_hostname", m.host.map quote),
    member "modification_tag" m.tag.json,
    ("ttl", m.ttl.map fun t => toString t.toNat)]

namespace Action

def json (a : Action) : String := quote a.name

def named (name : String) : Reader Action :=
  match ofName? name with
  | some a => pure a
  | none => Reader.fail (.variant name Action.upsert.name Action.delete.name)

/-- An action is its name, or an object that holds null under its name. -/
def read : Reader Action := do
  match ← peek with
  | some '"' => named (← text)
  | some '\x7b' =>
    advance
    if (← peek) ≠ some '"' then unexpected "variant identifier"
    let a ← named (← text)
    expect ':'
    if (← peek) = some 'n' then word "null".toList else unexpected "unit"
    expect '\x7d'
    return a
  | _ => throw .malformed

def ofJson? (s : String) : Except Fault Action := document read (signs s)

end Action
end RouteSync
