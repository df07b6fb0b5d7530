import RouteSync.Log
import RouteSync.Route.Server
import RouteSync.Text.Quoted

/-! The servers of one key, in the order in which they came. -/
namespace RouteSync

/-- A server and when the catalogue last confirmed it, in milliseconds. -/
structure Tracked where
  server : Server
  confirmed : Nat
  deriving DecidableEq, Inhabited

/-- A confirmation still holds at the very end of its time. A clock that went back shows no age. -/
def Tracked.stale (b : Tracked) (now : Nat) : Bool :=
  b.server.ttl ≠ 0 && b.server.ttl.toNat * 1000 < now - b.confirmed

def Tracked.same (b : Tracked) (s : Server) : Bool := b.server.same s

def Tag.text (t : Tag) : String :=
  "ModificationTag \x7b guid: " ++ Text.quoted t.guid ++ ", index: " ++ toString t.index.toNat ++
    " \x7d"

def Server.place (s : Server) : String := s.address ++ ":" ++ toString s.port.toNat

/-- What is logged of a record that came too late. -/
def outdated (verb : String) (incoming stored : Server) : Log.Record :=
  Log.debug ("Ignoring " ++ verb ++ " of " ++ incoming.place ++
    " with outdated modification tag " ++ incoming.tag.text ++ " (stored " ++ stored.tag.text ++
    ").")

abbrev Entry := List Tracked

namespace Entry

def servers (e : Entry) : List Server := e.map (·.server)

/-- Adds a server that is seen at `now`; the same server twice is kept once, in its newer record. -/
def add (now : Nat) (s : Server) : Entry → Entry
  | [] => [⟨s, now⟩]
  | b :: bs =>
    if b.same s then (if s.tag.succeeds b.server.tag then ⟨s, b.confirmed⟩ else b) :: bs
    else b :: add now s bs

def ofServers (servers : List Server) (now : Nat) : Entry :=
  servers.foldl (fun e s => add now s e) []

def find? (e : Entry) (s : Server) : Option Tracked := List.find? (·.same s) e

/-- Servers that are in `old` already come first, in its order. -/
def orderedLike (new old : Entry) : Entry :=
  old.filterMap (fun b => find? new b.server) ++ new.filter fun b => (find? old b.server).isNone

/-- What becomes of an entry, whether its servers changed, and what there is to say. -/
structure Edit where
  entry : Entry
  changed : Bool
  log : List Log.Record := []

def Edit.cons (b : Tracked) (edit : Edit) : Edit := { edit with entry := b :: edit.entry }

/-- A newer record replaces the stored one, and a repeated one renews its time. -/
def replace (now : Nat) (s : Server) (b : Tracked) : Tracked × Bool × List Log.Record :=
  if s.tag.succeeds b.server.tag then (⟨s, now⟩, b.server ≠ s, [])
  else if b.server = s then ({ b with confirmed := now }, false, [])
  else (b, false, [outdated "upsert" s b.server])

def upsert (now : Nat) (s : Server) : Entry → Edit
  | [] => ⟨[⟨s, now⟩], true, []⟩
  | b :: bs =>
    if b.same s then
      let (b, changed, log) := replace now s b
      ⟨b :: bs, changed, log⟩
    else (upsert now s bs).cons b

/-- A record as new as the stored one takes the server away. -/
def delete (s : Server) : Entry → Edit
  | [] => ⟨[], false, []⟩
  | b :: bs =>
    if b.same s then
      if s.tag.succeedsOrEquals b.server.tag then ⟨bs, true, []⟩
      else ⟨b :: bs, false, [outdated "delete" s b.server]⟩
    else (delete s bs).cons b

def fresh (now : Nat) (e : Entry) : Entry := e.filter fun b => !b.stale now

end Entry
end RouteSync
