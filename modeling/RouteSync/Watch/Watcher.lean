import RouteSync.Watch.Worker

/-! The watcher: a worker hands events on through a channel, the main loop puts them into effect and
starts syncs. Any of them may take the next step; a step that is not possible is none. -/
namespace RouteSync.Watch

open Catalogue

/-- Where the main loop stands. -/
inductive Loop where
  | running
  /-- An event was taken from the channel, and waits for the table or for the proxy. -/
  | handling (event : Event)
  /-- The loop was left, and its syncs are stopped. -/
  | leaving
  /-- The channel is gone; the worker is waited for. -/
  | waiting
  | stopped
  deriving DecidableEq, Inhabited

/-- Whether events may still be handed on. -/
def Loop.isOpen : Loop → Bool
  | .running | .handling _ | .leaving => true
  | .waiting | .stopped => false

structure Watcher where
  reconciler : Reconciler := .initial
  worker : Worker := .idle
  /-- Events on their way, first come first. -/
  channel : List Event := []
  syncs : List SyncCall := []
  loop : Loop := .running
  signal : Signal := .quiet

/-- The channel has room for so many events. -/
def capacity : Nat := 1024

/-- What a sync gets when it takes a step. -/
inductive SyncInput where
  | token (answer : TokenAnswer)
  | listing (answer : ListingAnswer)
  /-- The table is free. -/
  | table (outcome : Outcome)

inductive Move where
  /-- The worker starts over. -/
  | begin
  | token (answer : TokenAnswer)
  | subscribed (failure : Option SourceError)
  | next (answer : Except SourceError Event)
  /-- The worker's event goes into the channel. -/
  | hand
  | close (failure : Option SourceError)
  /-- The worker's wait is over. -/
  | retry
  /-- The worker takes notice of the signal, or of a main loop that is gone. -/
  | heed
  /-- The main loop takes an event from the channel. -/
  | receive
  /-- The main loop is through with the event that it took. -/
  | handle (outcome : Outcome)
  /-- A sync is requested, and starts. -/
  | request
  | sync (index : Nat) (input : SyncInput)
  /-- The main loop takes notice of the signal. -/
  | leave
  /-- The channel is given up, with all that is in it. -/
  | release
  /-- The worker has stopped, and so does the watcher. -/
  | stop
  | raise
  | drop

/-- The watcher after a step, and what the step did. -/
structure Step where
  after : Watcher
  acts : List Act := []

namespace Watcher

def started : Log.Record := Log.info "Watcher started."
def stoppedRecord : Log.Record := Log.info "Watcher stopped."

def work (w : Watcher) (step : WorkerStep) : Step := ⟨{ w with worker := step.worker }, step.acts⟩

/-- A sync that is finished is forgotten. -/
def moveSync (w : Watcher) (index : Nat) (r : Reconciler) (step : SyncStep) : Step :=
  let syncs := match step.call with
    | .finished => w.syncs.eraseIdx index
    | call => w.syncs.set index call
  ⟨{ w with syncs, reconciler := r }, step.acts⟩

def syncStep (w : Watcher) (now : Nat) (index : Nat) (call : SyncCall) (input : SyncInput) :
    Option Step :=
  let free := moveSync w index w.reconciler
  match call, input with
  | .fetching, .token answer => some (free (SyncCall.fetched answer))
  | .entering, .table _ =>
    let (r, step) := SyncCall.enter w.reconciler
    some (w.moveSync index r step)
  | .listing, .listing answer => some (free (SyncCall.listed answer))
  | .refreshing, .token answer => some (free (SyncCall.refreshed answer))
  | .relisting, .listing answer => some (free (SyncCall.relisted answer))
  | .merging listing, .table outcome =>
    let step := w.reconciler.finishSync listing now outcome
    some (w.moveSync index step.after ⟨.finished, step.acts⟩)
  | _, _ => none

def aborting (w : Watcher) : List Act :=
  if w.syncs.isEmpty then []
  else [.log (Log.debug ("Aborting " ++ toString w.syncs.length ++ " in-flight bulk syncs."))]

/-- Whether the worker has a reason to stop. -/
def ending (w : Watcher) : Bool := w.signal ≠ .quiet || !w.loop.isOpen

/-- The result of a move at time `now`. -/
def step (w : Watcher) (now : Nat) : Move → Option Step
  | .begin => if w.worker = .idle then some (w.work (Worker.begin w.signal)) else none
  | .token answer =>
    if w.worker = .fetching then some (w.work (Worker.fetched now answer)) else none
  | .subscribed failure =>
    if w.worker = .subscribing then some (w.work (Worker.subscribed now failure)) else none
  | .next answer => if w.worker = .streaming then some (w.work (Worker.received answer)) else none
  | .hand =>
    match w.worker with
    | .handing e =>
      if w.loop.isOpen ∧ w.channel.length < capacity then
        some ⟨{ w with worker := .streaming, channel := w.channel ++ [e] }, []⟩
      else none
    | _ => none
  | .close failure =>
    match w.worker with
    | .closing last => some (w.work (Worker.closed last failure))
    | _ => none
  | .retry =>
    match w.worker with
    | .waiting _ => some (w.work ⟨.idle, []⟩)
    | _ => none
  | .heed => if w.ending then w.worker.heed?.map w.work else none
  | .receive =>
    match w.loop, w.channel with
    | .running, e :: channel => some ⟨{ w with loop := .handling e, channel }, []⟩
    | _, _ => none
  | .handle outcome =>
    match w.loop with
    | .handling e =>
      let handled := w.reconciler.handle e now outcome
      some ⟨{ w with loop := .running, reconciler := handled.after }, handled.acts⟩
    | _ => none
  | .request =>
    if w.loop = .running then some ⟨{ w with syncs := w.syncs ++ [.fetching] }, []⟩ else none
  | .sync index input => do w.syncStep now index (← w.syncs[index]?) input
  | .leave =>
    if w.loop = .running ∧ w.signal ≠ .quiet then
      some ⟨{ w with loop := .leaving, syncs := [] }, w.aborting⟩
    else none
  | .release =>
    if w.loop = .leaving then some ⟨{ w with loop := .waiting, channel := [] }, []⟩ else none
  | .stop =>
    if w.loop = .waiting ∧ w.worker = .stopped then
      some ⟨{ w with loop := .stopped }, [.log stoppedRecord]⟩
    else none
  | .raise => if w.signal = .quiet then some ⟨{ w with signal := .raised }, []⟩ else none
  | .drop => if w.signal = .quiet then some ⟨{ w with signal := .dropped }, []⟩ else none

end Watcher
end RouteSync.Watch
