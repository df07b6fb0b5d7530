import RouteSync.Rehearsal.Stage
import RouteSync.Watch.Watcher

/-! A watcher at work in a scripted world. -/
namespace RouteSync.Rehearsal

open Catalogue Watch

/-- A stream that opens, and whether closing it will fail, or the reason why none opens. -/
abbrev Opening := Except SourceError Bool

structure Watching where
  outside : Outside
  watcher : Watcher := {}
  retryInterval : Nat
  openings : List Opening := []
  /-- Whether closing the latest stream fails. -/
  closeFails : Bool := false
  /-- What waits on the latest stream. -/
  stream : List (Except SourceError Event) := []
  /-- Whether listings are kept waiting. -/
  stalled : Bool := false

namespace Watching

/-- The answer to a subscription beyond the script. -/
def unavailable : SourceError := .status 503 "unavailable"

/-- Takes a step, if it is possible. -/
def take? (s : Watching) (outside : Outside) (move : Move) : Option Watching :=
  (s.watcher.step s.outside.now move).map fun step =>
    { s with watcher := step.after, outside := outside.noteAll step.acts }

def closing (s : Watching) : Option SourceError := if s.closeFails then some .closed else none

def retryDue (s : Watching) : Option Nat :=
  match s.watcher.worker with
  | .waiting since => some (since + s.retryInterval)
  | _ => none

/-- The next step of the worker that waits for nothing new. -/
def workerStep? (s : Watching) : Option Watching :=
  match s.watcher.worker with
  | .idle => s.take? s.outside .begin
  | .fetching => let (answer, o) := s.outside.token; s.take? o (.token answer)
  | .subscribing =>
    let opening := s.openings.headD (.error unavailable)
    let failure := match opening with
      | .ok _ => none
      | .error e => some e
    let s := { s with openings := s.openings.tail, closeFails := opening.toOption.getD false,
                      stream := [] }
    s.take? s.outside (.subscribed failure)
  | .streaming =>
    match s.stream with
    | answer :: stream => { s with stream }.take? s.outside (.next answer)
    | [] => s.take? s.outside .heed
  | .handing _ => (s.take? s.outside .hand).orElse fun _ => s.take? s.outside .heed
  | .closing _ => s.take? s.outside (.close s.closing)
  | .waiting since =>
    if since + s.retryInterval ≤ s.outside.now then s.take? s.outside .retry
    else s.take? s.outside .heed
  | .stopped => none

def syncStep? (s : Watching) (index : Nat) : Option Watching :=
  match s.watcher.syncs[index]? with
  | some .fetching | some .refreshing =>
    let (answer, o) := s.outside.token
    s.take? o (.sync index (.token answer))
  | some .listing | some .relisting =>
    if s.stalled then none
    else
      let (answer, o) := s.outside.listing
      s.take? o (.sync index (.listing answer))
  | some .entering | some (.merging _) =>
    s.take? s.outside (.sync index (.table s.outside.outcome))
  | _ => none

/-- The next step of the main loop. -/
def loopStep? (s : Watching) : Option Watching :=
  [.leave, .receive, .handle s.outside.outcome, .release, .stop].findSome? (s.take? s.outside)

def syncsStep? (s : Watching) : Option Watching :=
  (List.range s.watcher.syncs.length).findSome? s.syncStep?

def step? (s : Watching) : Option Watching :=
  s.loopStep?.orElse fun _ => s.workerStep?.orElse fun _ => s.syncsStep?

/-- Takes steps until all wait for something new. -/
def settle : Nat → Watching → Watching
  | 0, s => s
  | n + 1, s =>
    match s.step? with
    | some s => settle n s
    | none => s

/-- More steps than any script needs between two moves of the clock. -/
def enough (s : Watching) : Nat :=
  64 * (2 + s.stream.length + s.openings.length + s.watcher.syncs.length + s.watcher.channel.length)

def settled (s : Watching) : Watching := settle s.enough s

def start (retryInterval : Nat) (openings : List Opening) (outside : Outside) : Watching :=
  settled { outside := outside.note (.log Watcher.started), retryInterval, openings }

/-- Puts something on the latest stream, if it is open. -/
def deliver (s : Watching) (answer : Except SourceError Event) : Watching :=
  match s.watcher.worker with
  | .streaming | .handing _ => settled { s with stream := s.stream ++ [answer] }
  | _ => s

/-- Makes a move from the outside, if it is possible. -/
def make (s : Watching) (move : Move) : Watching :=
  ((s.take? s.outside move).getD s).settled

def stall (s : Watching) : Watching := { s with stalled := true }

def release (s : Watching) : Watching := settled { s with stalled := false }

def clockTo (s : Watching) (now : Nat) : Watching :=
  { s with outside := { s.outside with now := max now s.outside.now } }

/-- Lets time pass; a worker that waits for another try has it when its time has come. -/
def passTo (target : Nat) : Nat → Watching → Watching
  | 0, s => s.clockTo target
  | n + 1, s =>
    match s.retryDue with
    | some due =>
      if due ≤ target then passTo target n (s.clockTo due).settled else s.clockTo target
    | none => s.clockTo target

def wait (s : Watching) (time : Nat) : Watching :=
  passTo (s.outside.now + time) (time / max 1 s.retryInterval + 1) s

def running (s : Watching) : Bool := s.watcher.loop ≠ .stopped

end Watching
end RouteSync.Rehearsal
