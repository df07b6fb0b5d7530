import RouteSync.Act
import RouteSync.Table.Follow

/-! The reconciler: the table, and the events that wait while a listing is fetched. -/
namespace RouteSync

structure Reconciler where
  table : Table
  syncing : Bool
  held : List Event
  deriving Inhabited

/-- How the proxy took a snapshot; what went wrong is told in words. -/
abbrev Outcome := Except String Unit

namespace Reconciler

def initial : Reconciler := ⟨.empty, false, []⟩

/-- The reconciler after a step, and what the step did. -/
structure Step where
  after : Reconciler
  acts : List Act

def failedConfigure : Outcome → List Act
  | .ok _ => []
  | .error what => [.log (Log.error ("Failed to configure HAProxy: " ++ what))]

/-- A changed table is handed to the proxy at once; `outcome` is how the proxy takes it. -/
def publish (c : Change) (outcome : Outcome) : List Act :=
  Act.logs c.log ++
    if c.changed then .configure c.table.snapshot :: failedConfigure outcome else []

def commit (r : Reconciler) (c : Change) (outcome : Outcome) : Step :=
  ⟨{ r with table := c.table }, publish c outcome⟩

def heldRecord (e : Event) : Log.Record :=
  Log.debug ("caching-event: " ++ e.action.name ++ " " ++ e.mapping.address ++ ":" ++
    toString e.mapping.serverPort.toNat ++ " on port " ++ toString e.mapping.port.toNat)

/-- Puts an event into effect, or holds it while a listing is under way. -/
def handle (r : Reconciler) (e : Event) (now : Nat) (outcome : Outcome) : Step :=
  if r.syncing then ⟨{ r with held := r.held ++ [e] }, [.log (heldRecord e)]⟩
  else r.commit (r.table.apply e now) outcome

def prune (r : Reconciler) (now : Nat) (outcome : Outcome) : Step :=
  r.commit (r.table.prune now) outcome

/-- A listing that may have failed, with the reason in words. -/
abbrev Listing := Except String (List Mapping)

def fetchedRecord (count : Nat) (changed : Bool) : Log.Record :=
  Log.info ("Bulk sync fetched " ++ toString count ++ " TCP route mappings (changed=" ++
    toString changed ++ ").")

/-- Takes over a listing; a failed one changes nothing. -/
def mergeListing (t : Table) (listing : Listing) (now : Nat) : Change :=
  match listing with
  | .ok mappings =>
    let c := t.merge mappings now
    { c with log := c.log ++ [fetchedRecord mappings.length c.changed] }
  | .error what => t.unchanged [Log.error ("Failed to fetch TCP route mappings: " ++ what)]

def replayRecords (held : List Event) : List Log.Record :=
  if held.isEmpty then []
  else [Log.debug ("Applying " ++ toString held.length ++ " events cached during sync.")]

/-- Ends a sync: the listing first, then the events held meanwhile, then one hand-over. -/
def finishSync (r : Reconciler) (listing : Listing) (now : Nat) (outcome : Outcome) : Step :=
  let merged := mergeListing r.table listing now
  let change := Table.Change.then merged fun t =>
    let replayed := t.replay r.held now
    { replayed with log := replayRecords r.held ++ replayed.log }
  ⟨⟨change.table, false, []⟩, publish change outcome⟩

/-- Why a replacement of routes was refused. -/
inductive UpdateError where
  | invalid (why : TableError)
  | configure (what : String)
  deriving DecidableEq, Inhabited

def UpdateError.message : UpdateError → String
  | .invalid why => "invalid route: " ++ why.message
  | .configure what => "failed to configure HAProxy: " ++ what

/-- Sets routes in their order and stops at the first that cannot be set. -/
def setAll (now : Nat) : Change → List (Key × List Server) → Change × Option TableError
  | c, [] => (c, none)
  | c, (k, servers) :: routes =>
    match c.table.set k (Entry.ofServers servers now) with
    | .ok next => setAll now ⟨next.table, c.changed || next.changed, c.log ++ next.log⟩ routes
    | .error why => (c, some why)

/-- A replacement's answer tells whether anything changed. -/
structure Update where
  after : Reconciler
  acts : List Act
  answer : Except UpdateError Bool

/-- Replaces the servers of each key given. -/
def update (r : Reconciler) (routes : List (Key × List Server)) (now : Nat) (outcome : Outcome) :
    Update :=
  let (change, fault) := setAll now (r.table.unchanged []) routes
  let after := { r with table := change.table }
  match fault with
  | some why => ⟨after, Act.logs change.log, .error (.invalid why)⟩
  | none =>
    if change.changed then
      ⟨after, Act.logs change.log ++ [.configure change.table.snapshot],
        match outcome with
        | .ok _ => .ok true
        | .error what => .error (.configure what)⟩
    else ⟨after, Act.logs change.log, .ok false⟩

end Reconciler
end RouteSync
