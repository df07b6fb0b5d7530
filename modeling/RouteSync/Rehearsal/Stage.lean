import RouteSync.Watch.Stage

/-! Syncs on a stage, with answers from its script. -/
namespace RouteSync

namespace Watch.Stage

/-- One step of a sync, with the world's next answer to what it waits for. -/
def syncStep (s : Stage) (call : SyncCall) : SyncCall × Stage :=
  let by_ (outside : Outside) (step : SyncStep) : SyncCall × Stage :=
    (step.call, { s with outside := outside.noteAll step.acts })
  match call with
  | .fetching => let (answer, o) := s.outside.token; by_ o (SyncCall.fetched answer)
  | .entering =>
    let (r, step) := SyncCall.enter s.reconciler
    (step.call, ⟨s.outside.noteAll step.acts, r⟩)
  | .listing => let (answer, o) := s.outside.listing; by_ o (SyncCall.listed answer)
  | .refreshing => let (answer, o) := s.outside.token; by_ o (SyncCall.refreshed answer)
  | .relisting => let (answer, o) := s.outside.listing; by_ o (SyncCall.relisted answer)
  | .merging listing =>
    (.finished, s.put fun o r => r.finishSync listing o.now o.outcome)
  | .finished => (.finished, s)

/-- No sync takes more steps than this. -/
def syncSteps : Nat := 6

/-- Runs a sync until it waits for a listing for the first time, or is finished. -/
def beginSync (s : Stage) : SyncCall × Stage :=
  let (call, s) := s.syncStep .fetching
  s.syncStep call

/-- Runs a sync to its end. -/
def endSync (s : Stage) (call : SyncCall) : Stage :=
  (go syncSteps (call, s)).2
where
  go : Nat → SyncCall × Stage → SyncCall × Stage
    | 0, state => state
    | n + 1, (call, s) => go n (s.syncStep call)

def sync (s : Stage) : Stage := s.endSync .fetching

end Watch.Stage

namespace Rehearsal

export Watch (Entry Outside Stage)

end Rehearsal
end RouteSync
