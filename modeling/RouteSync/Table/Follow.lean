import RouteSync.Route.Event
import RouteSync.Table.Basic

/-! What events and listings of the catalogue do to the table. -/
namespace RouteSync.Table

def unchanged (t : Table) (log : List Log.Record) : Change := ⟨t, false, log⟩

def droppedEvent (e : Event) (why : MappingError) : Log.Record :=
  Log.warn ("Dropping " ++ e.action.name ++ " event for port " ++ toString e.mapping.port.toNat ++
    ": " ++ why.message)

/-- Puts one event into effect. An event that describes no route is dropped. -/
def apply (t : Table) (e : Event) (now : Nat) : Change :=
  match e.mapping.route with
  | .error why => t.unchanged [droppedEvent e why]
  | .ok (k, s) =>
    let result := match e.action with
      | .upsert => t.upsert k s now
      | .delete => t.delete k s
    match result with
    | .ok change => change
    | .error why =>
      t.unchanged [Log.warn ("Dropping " ++ e.action.name ++ " event: " ++ why.message)]

/-- One change after another, as one. -/
def Change.then (first : Change) (next : Table → Change) : Change :=
  let second := next first.table
  ⟨second.table, first.changed || second.changed, first.log ++ second.log⟩

/-- Puts events into effect in their order, all at one time. -/
def replay (t : Table) (events : List Event) (now : Nat) : Change :=
  events.foldl (fun change e => Change.then change fun t => t.apply e now) (t.unchanged [])

def skippedMapping (m : Mapping) (why : MappingError) : Log.Record :=
  Log.warn ("Skipping TCP route mapping " ++ m.address ++ ":" ++ toString m.serverPort.toNat ++
    " on port " ++ toString m.port.toNat ++ ": " ++ why.message)

/-- The servers that a listing names for each key, in the listing's order. -/
def listed (mappings : List Mapping) : RouteMap (List Server) :=
  mappings.foldl (fun routes m =>
    match m.route with
    | .ok (k, s) => routes.insert k ((routes.get? k).getD [] ++ [s])
    | .error _ => routes) .empty

def skipped (mappings : List Mapping) : List Log.Record :=
  mappings.filterMap fun m =>
    match m.route with
    | .ok _ => none
    | .error why => some (skippedMapping m why)

def setListed (now : Nat) (route : Key × List Server) (t : Table) : Change :=
  match t.set route.1 (Entry.ofServers route.2 now) with
  | .ok change => change
  | .error why => t.unchanged [Log.warn ("Skipping synced route: " ++ why.message)]

/-- Replaces every key that the listing names, and leaves all others as they are. -/
def merge (t : Table) (mappings : List Mapping) (now : Nat) : Change :=
  (listed mappings).entries.foldl (fun change route => Change.then change (setListed now route))
    (t.unchanged (skipped mappings))

end RouteSync.Table
