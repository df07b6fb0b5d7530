import RouteSync.Route.Map
import RouteSync.Table.Entry

/-! The table of routes. Every change tells whether what is served changed with it. -/
namespace RouteSync

structure Table where
  routes : RouteMap Entry
  deriving Inhabited

/-- What is served: the servers of every key, without their times. -/
abbrev Snapshot := RouteMap (List Server)

/-- The table that results, whether its snapshot changed, and what there is to say. -/
structure Change where
  table : Table
  changed : Bool
  log : List Log.Record := []

structure TableError where
  key : Key
  deriving DecidableEq, Inhabited

def TableError.message (e : TableError) : String :=
  "invalid routing key " ++ e.key.text ++ ": port must be between 1 and 65535"

namespace Table

def empty : Table := ⟨.empty⟩

def get? (t : Table) (k : Key) : Option Entry := t.routes.get? k

def entry (t : Table) (k : Key) : Entry := (t.get? k).getD []

def snapshot (t : Table) : Snapshot := t.routes.map Entry.servers

/-- Stores an entry; an empty one takes its key away. -/
def store (t : Table) (k : Key) (e : Entry) : Table :=
  if e.isEmpty then ⟨t.routes.erase k⟩ else ⟨t.routes.insert k e⟩

def checked {α : Type} (k : Key) (a : α) : Except TableError α :=
  if k.valid then .ok a else .error ⟨k⟩

/-- Replaces the servers of a key. Those it had already keep their places. -/
def set (t : Table) (k : Key) (e : Entry) : Except TableError Change :=
  let e := e.orderedLike (t.entry k)
  checked k { table := t.store k e, changed := e.servers ≠ (t.entry k).servers }

/-- Adds a server to a key, or puts a newer record of it in place of the stored one. -/
def upsert (t : Table) (k : Key) (s : Server) (now : Nat) : Except TableError Change :=
  let edit := (t.entry k).upsert now s
  checked k ⟨t.store k edit.entry, edit.changed, edit.log⟩

/-- Takes a server away from a key, unless a newer record of it is stored. -/
def delete (t : Table) (k : Key) (s : Server) : Except TableError Change :=
  let edit := (t.entry k).delete s
  checked k ⟨t.store k edit.entry, edit.changed, edit.log⟩

def expired (k : Key) (b : Tracked) : Log.Record :=
  Log.info ("Pruning stale backend " ++ b.server.place ++ " from " ++ k.text ++ " (ttl " ++
    toString b.server.ttl.toNat ++ "s).")

def staleIn (now : Nat) (entry : Key × Entry) : List Log.Record :=
  (entry.2.filter (·.stale now)).map (expired entry.1)

/-- Takes away every server whose confirmation ran out, and every key that has none left. -/
def prune (t : Table) (now : Nat) : Change :=
  let log := t.routes.entries.flatMap (staleIn now)
  { table := ⟨t.routes.filterMap fun _ e => if (e.fresh now).isEmpty then none else e.fresh now⟩
    changed := !log.isEmpty
    log }

end Table
end RouteSync
