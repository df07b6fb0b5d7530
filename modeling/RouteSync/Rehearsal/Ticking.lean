import RouteSync.Watch.Pruner
import RouteSync.Watch.Syncer

/-! Looks at tickers from the outside. -/
namespace RouteSync

namespace Watch.Syncer

/-- Waits for a request, as long as one may come. -/
def receive (s : Syncer) : Bool × Syncer :=
  let s :=
    if s.requests.waiting || !s.requests.running || !s.requests.heard then s
    else s.wait (s.ticker.due - s.now)
  let (taken, s) := s.take
  (taken = .request, s)

def flush (s : Syncer) : List Log.Record × Syncer := (s.log.reverse, { s with log := [] })

end Watch.Syncer

namespace Rehearsal

export Watch (Pruner Syncer)

end Rehearsal
end RouteSync
