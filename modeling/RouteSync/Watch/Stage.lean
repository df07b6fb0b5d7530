import RouteSync.Reservation.Endpoint
import RouteSync.Watch.Outside

/-! A reconciler at work in a scripted world. -/
namespace RouteSync.Watch

structure Stage where
  outside : Outside := {}
  reconciler : Reconciler := .initial

namespace Stage

/-- Puts a step of the reconciler on the stage. -/
def put (s : Stage) (step : Outside → Reconciler → Reconciler.Step) : Stage :=
  let result := step s.outside s.reconciler
  ⟨s.outside.noteAll result.acts, result.after⟩

def event (s : Stage) (e : Event) : Stage := s.put fun o r => r.handle e o.now o.outcome

def prune (s : Stage) : Stage := s.put fun o r => r.prune o.now o.outcome

def wait (s : Stage) (time : Nat) : Stage := { s with outside := s.outside.wait time }

def update (s : Stage) (routes : List (Key × List Server)) :
    Except Reconciler.UpdateError Bool × Stage :=
  let u := s.reconciler.update routes s.outside.now s.outside.outcome
  (u.answer, ⟨s.outside.noteAll u.acts, u.after⟩)

def serve (s : Stage) (ports : Reservation.Ports) (q : Http.Request) : Http.Response × Stage :=
  let served := Reservation.serve ports s.reconciler q s.outside.now s.outside.outcome
  (served.response, ⟨s.outside.noteAll served.acts, served.after⟩)

end Stage
end RouteSync.Watch
