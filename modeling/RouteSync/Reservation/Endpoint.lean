import RouteSync.Reconcile.Basic
import RouteSync.Reservation.Request

/-! The endpoint that external ports are reserved at. -/
namespace RouteSync.Reservation

def path : String := "/v0/external_ports"

structure Served where
  after : Reconciler
  acts : List Act
  response : Http.Response

def refusal (r : Reconciler) (why : Refusal) : Served :=
  ⟨r, [.log (Log.warn ("Rejected external ports request: " ++ why.message))],
    ⟨400, some why.message⟩⟩

def status : Reconciler.UpdateError → Nat
  | .invalid _ => 400
  | .configure _ => 500

def applied (count : Nat) (changed : Bool) : Act :=
  .log (Log.info ("Applied " ++ toString count ++ " external port mappings (changed=" ++
    toString changed ++ ")."))

def notApplied (why : Reconciler.UpdateError) : Act :=
  .log (Log.error ("Failed to apply external port mappings: " ++ why.message))

/-- Replaces the servers of every port in the request. -/
def apply (r : Reconciler) (routes : List (Key × List Server)) (now : Nat) (outcome : Outcome) :
    Served :=
  let update := r.update routes now outcome
  match update.answer with
  | .ok changed => ⟨update.after, update.acts ++ [applied routes.length changed], ⟨200, none⟩⟩
  | .error why => ⟨update.after, update.acts ++ [notApplied why], ⟨status why, some why.message⟩⟩

/-- Answers a request. Only a post to the one path is looked into. -/
def serve (ports : Ports) (r : Reconciler) (q : Http.Request) (now : Nat) (outcome : Outcome) :
    Served :=
  if q.path ≠ path then ⟨r, [], ⟨404, none⟩⟩
  else if q.method ≠ "POST" then ⟨r, [], ⟨405, none⟩⟩
  else match requested q >>= routes ports with
    | .error why => refusal r why
    | .ok routes => apply r routes now outcome

end RouteSync.Reservation
