import RouteSync.Http.Call

/-! What servers get to see of the calls in a rehearsal. -/
namespace RouteSync.Rehearsal

open Http

/-- The calls that a server got to see. -/
def seen (send : Send) (calls : List Call) : List Call := calls.filter fun c => (send c).toBool

end RouteSync.Rehearsal
