import RouteSync.Proofs.Watch.Run

/-! The calls that a worker makes of the catalogue, in the only order they come in: a token by
force, a subscription with it and, where a stream was opened, the closing of that stream. -/
namespace RouteSync

def Act.isCall : Act → Bool
  | .log _ => false
  | _ => true

namespace Watch

/-- What the worker has got from its calls, and not used up or given back. -/
inductive Hold where
  | nothing
  /-- A token was given, and is not in use yet. -/
  | grant
  | token
  | stream

namespace Hold

/-- What a call leaves, where the call has its place. -/
def after? : Hold → Act → Option Hold
  | .nothing, .fetchToken true ok => some (if ok then .grant else .nothing)
  | .grant, .useToken _ => some .token
  | .token, .subscribe ok => some (if ok then .stream else .nothing)
  | .stream, .close => some .nothing
  | _, _ => none

end Hold

def Worker.hold : Worker → Hold
  | .idle | .fetching | .waiting _ | .stopped => .nothing
  | .subscribing => .token
  | .streaming | .handing _ | .closing _ => .stream

namespace Watcher

/-- The calls that the worker makes in a turn. -/
def Turn.calls (t : Turn) : List Act := if t.move.byWorker then t.acts.filter Act.isCall else []

variable {w : Watcher} {now : Nat} {move : Move} {turns : List Turn}

end Watcher
end Watch
end RouteSync
