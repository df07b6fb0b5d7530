import RouteSync.Clock.Duration
import RouteSync.Clock.Ticker

/-! Requests for bulk syncs. One is made at every tick, unless the last one still waits. -/
namespace RouteSync.Watch

/-- At most one request waits. -/
structure Requests where
  waiting : Bool := false
  /-- Whether somebody takes requests. -/
  heard : Bool := true
  /-- Whether requests are still made. -/
  running : Bool := true
  deriving DecidableEq, Inhabited

inductive Taken where
  | request
  | empty
  /-- No request waits, and none will come. -/
  | closed
  deriving DecidableEq, Inhabited

namespace Requests

def started (interval : Clock.Duration) : Log.Record :=
  Log.info ("Syncer started (interval " ++ Clock.text interval ++ ").")

def stopped : Log.Record := Log.info "Syncer stopped."

/-- Makes a request. Without anybody to take it no more are made. -/
def tick (r : Requests) : Requests × List Log.Record :=
  if !r.running then (r, [])
  else if !r.heard then ({ r with running := false }, [stopped])
  else if r.waiting then (r, [Log.debug "Bulk sync already pending."])
  else ({ r with waiting := true }, [Log.debug "Requested bulk sync."])

def take (r : Requests) : Requests × Taken :=
  if !r.heard then (r, .closed)
  else if r.waiting then ({ r with waiting := false }, .request)
  else (r, if r.running then .empty else .closed)

/-- Nobody takes requests any more; one that waits is lost. -/
def unheard (r : Requests) : Requests := { r with heard := false, waiting := false }

def stop (r : Requests) : Requests × List Log.Record :=
  if r.running then ({ r with running := false }, [stopped]) else (r, [])

end Requests
end RouteSync.Watch
