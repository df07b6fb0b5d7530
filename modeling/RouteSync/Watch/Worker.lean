import RouteSync.Reconcile.Sync

/-! The worker that keeps a subscription alive: it fetches a token, subscribes, hands events on
until the stream fails, closes it, and starts over. -/
namespace RouteSync.Watch

open Catalogue

/-- The signal to stop is not given, is given, or can never be given any more. -/
inductive Signal where
  | quiet | raised | dropped
  deriving DecidableEq, Inhabited

inductive Worker where
  /-- About to start over. -/
  | idle
  | fetching
  | subscribing
  | streaming
  /-- An event waits for room. -/
  | handing (event : Event)
  /-- The open stream is to be closed, for good or before starting over. -/
  | closing (last : Bool)
  /-- A failure happened at `since`, and is to be tried again. -/
  | waiting (since : Nat)
  | stopped
  deriving DecidableEq, Inhabited

/-- The worker after a step, and what the step did. -/
structure WorkerStep where
  worker : Worker
  acts : List Act := []

namespace Worker

def stoppedRecord : Log.Record := Log.debug "Subscription worker stopped."

def quit : WorkerStep := ⟨.stopped, [.log stoppedRecord]⟩

/-- Only a signal that was given keeps the worker from starting over. -/
def begin (signal : Signal) : WorkerStep := if signal = .raised then quit else ⟨.fetching, []⟩

def fetched (now : Nat) : TokenAnswer → WorkerStep
  | .ok token => ⟨.subscribing, [.fetchToken true true, .useToken token]⟩
  | .error what => ⟨.waiting now, [.fetchToken true false, SyncCall.tokenFailed what]⟩

def subscribed (now : Nat) : Option SourceError → WorkerStep
  | none => ⟨.streaming, [.subscribe true, .log (Log.info "subscribed-to-tcp-routing-events")]⟩
  | some e =>
    ⟨.waiting now, [.subscribe false,
      .log (Log.error ("failed-subscribing-to-tcp-routing-events: " ++ e.message))]⟩

def received : Except SourceError Event → WorkerStep
  | .ok e => ⟨.handing e, []⟩
  | .error e =>
    ⟨.closing false, [.log (Log.error ("failed-getting-next-tcp-routing-event: " ++ e.message))]⟩

def closeRecords : Option SourceError → List Act
  | none => []
  | some e => [.log (Log.debug ("Failed to close TCP event stream: " ++ e.message))]

/-- A stream counts as closed also where closing it fails. -/
def closed (last : Bool) (failure : Option SourceError) : WorkerStep :=
  let acts := .close :: closeRecords failure
  if last then ⟨.stopped, acts ++ quit.acts⟩ else ⟨.idle, acts⟩

/-- What the worker does about the signal, where it waits for it. -/
def heed? : Worker → Option WorkerStep
  | .streaming | .handing _ => some ⟨.closing true, []⟩
  | .waiting _ => some quit
  | _ => none

end Worker
end RouteSync.Watch
