import RouteSync.Watch.Requests

/-! The maker of sync requests, on a clock that moves only when it is told to. -/
namespace RouteSync.Watch

open Clock

/-- The maker of sync requests, and its log since the last look, last first. -/
structure Syncer where
  ticker : Ticker
  now : Nat := 0
  requests : Requests := {}
  log : List Log.Record

namespace Syncer

/-- Notes what a part of a step says. -/
def put (s : Syncer) (part : Requests × List Log.Record) : Syncer :=
  { s with requests := part.1, log := part.2.reverse ++ s.log }

def fire (now : Nat) (s : Syncer) : Syncer := { s.put s.requests.tick with now }

/-- Makes every tick up to a time. -/
def tickTo (s : Syncer) (target : Nat) : Syncer :=
  let (ticker, s) := s.ticker.runUntil now fire target s
  { s with ticker, now := target }

def wait (s : Syncer) (time : Nat) : Syncer := s.tickTo (s.now + time)

/-- The clock jumps, and overdue ticks come late. -/
def jump (s : Syncer) (time : Nat) : Syncer :=
  tickTo { s with now := s.now + time } (s.now + time)

/-- The first request is made at once. -/
def start (interval : Nat) (h : 0 < interval) : Syncer :=
  jump { ticker := ⟨interval, 0, h⟩, log := [Requests.started interval] } 0

def take (s : Syncer) : Taken × Syncer :=
  let (requests, taken) := s.requests.take
  (taken, { s with requests })

def unheard (s : Syncer) : Syncer := { s with requests := s.requests.unheard }

def stop (s : Syncer) : Syncer := s.put s.requests.stop

end Syncer
end RouteSync.Watch
