/-! The servers behind a route, and the tags that tell which of two records is the newer. -/
namespace RouteSync

/-- The version of a record: within one guid the larger index is the newer. -/
structure Tag where
  guid : String
  index : UInt32
  deriving DecidableEq, Inhabited

namespace Tag

def initial : Tag := ⟨"", 0⟩

/-- Tags of different guids cannot be ordered; then the record that comes later counts as newer. -/
def succeeds (incoming stored : Tag) : Bool :=
  incoming.guid ≠ stored.guid || stored.index < incoming.index

def succeedsOrEquals (incoming stored : Tag) : Bool :=
  incoming = stored || incoming.succeeds stored

def order? (a b : Tag) : Option Ordering :=
  if a.guid = b.guid then some (compare a.index b.index) else none

end Tag

/-- A server that connections are forwarded to. -/
structure Server where
  address : String
  port : UInt16
  /-- Above zero the server is spoken to over TLS on this port. -/
  tlsPort : Int32
  instanceName : String
  tag : Tag
  /-- For how many seconds a confirmation holds; zero is for ever. -/
  ttl : UInt64
  deriving DecidableEq, Inhabited

namespace Server

/-- No word was given on TLS, as opposed to a server that does without it on purpose. -/
def tlsUnstated : Int32 := 0
def tlsDeclined : Int32 := -1

def plain (address : String) (port : UInt16) : Server :=
  ⟨address, port, tlsUnstated, "", Tag.initial, 0⟩

/-- What tells the servers of a route apart. -/
def endpoint (s : Server) : String × UInt16 := (s.address, s.port)

def same (a b : Server) : Bool := a.endpoint = b.endpoint

end Server
end RouteSync
