import RouteSync.Clock.Ticker
import RouteSync.Watch.Stage

/-! What prunes the table, on a clock that moves only when it is told to. -/
namespace RouteSync.Watch

open Clock

/-- What prunes the table at every tick. -/
structure Pruner where
  ticker : Ticker
  running : Bool := true
  stage : Stage := {}

namespace Pruner

/-- The first tick comes after one interval. -/
def start (interval : Nat) (h : 0 < interval) : Pruner := { ticker := ⟨interval, interval, h⟩ }

def clock (s : Stage) : Nat := s.outside.now

def clockTo (now : Nat) (s : Stage) : Stage :=
  { s with outside := { s.outside with now := max now s.outside.now } }

def fire (now : Nat) (s : Stage) : Stage := (clockTo now s).prune

/-- Makes every tick up to a time, unless it was stopped. -/
def tickTo (p : Pruner) (target : Nat) : Pruner :=
  let (ticker, stage) := if p.running then p.ticker.runUntil clock fire target p.stage
    else (p.ticker, p.stage)
  { p with ticker, stage := clockTo target stage }

def wait (p : Pruner) (time : Nat) : Pruner := p.tickTo (clock p.stage + time)

/-- The clock jumps, and overdue ticks come late. -/
def jump (p : Pruner) (time : Nat) : Pruner :=
  let now := clock p.stage + time
  tickTo { p with stage := clockTo now p.stage } now

/-- Ticks that are overdue come first. One that is due while the proxy takes the event waits for
it. -/
def event (p : Pruner) (e : Event) : Pruner :=
  let p := p.tickTo (clock p.stage)
  let stage := p.stage.event e
  if p.running && p.ticker.due ≤ clock stage then
    { p with ticker := p.ticker.tick p.ticker.due, stage := stage.prune }
  else { p with stage }

def stopped : Log.Record := Log.debug "Pruner stopped."

def stop (p : Pruner) : Pruner :=
  if p.running then
    { p with running := false
             stage := { p.stage with outside := p.stage.outside.note (.log stopped) } }
  else p

end Pruner
end RouteSync.Watch
