import RouteSync.Reservation.Endpoint
import RouteSync.Watch.Watcher

/-! A reconciler among its callers: calls come in any order, and those that wait for the catalogue
are gone through step by step, with anything else in between. -/
namespace RouteSync

def Act.snapshot? : Act → Option Snapshot
  | .configure s => some s
  | _ => none

/-- The snapshots that were handed over, in order. -/
def configured (acts : List Act) : List Snapshot := acts.filterMap Act.snapshot?

/-- The next step of a sync, if what it waits for is what comes. -/
def SyncCall.advance (call : SyncCall) (r : Reconciler) (now : Nat) (input : Watch.SyncInput) :
    Option (Reconciler × SyncStep) :=
  match call, input with
  | .fetching, .token answer => some (r, fetched answer)
  | .entering, .table _ => some (enter r)
  | .listing, .listing answer => some (r, listed answer)
  | .refreshing, .token answer => some (r, refreshed answer)
  | .relisting, .listing answer => some (r, relisted answer)
  | .merging answer, .table outcome =>
    let step := r.finishSync answer now outcome
    some (step.after, ⟨.finished, step.acts⟩)
  | _, _ => none

/-- Only the start and the end of a sync touch the reconciler, and nothing else is done to it. -/
theorem SyncCall.advance_cases {call : SyncCall} {r : Reconciler} {now : Nat}
    {input : Watch.SyncInput} {next : Reconciler × SyncStep}
    (h : call.advance r now input = some next) :
    (next.1 = r ∧ configured next.2.acts = []) ∨ next = enter r ∨
      ∃ answer outcome, next = ((r.finishSync answer now outcome).after,
        ⟨.finished, (r.finishSync answer now outcome).acts⟩) := by
  unfold advance at h
  split at h
  · rename_i answer
    obtain rfl := Option.some.inj h
    cases answer <;> exact .inl ⟨rfl, rfl⟩
  · exact .inr (.inl (Option.some.inj h).symm)
  · rename_i answer
    obtain rfl := Option.some.inj h
    unfold listed
    split <;> exact .inl ⟨rfl, rfl⟩
  · rename_i answer
    obtain rfl := Option.some.inj h
    cases answer <;> exact .inl ⟨rfl, rfl⟩
  · obtain rfl := Option.some.inj h
    exact .inl ⟨rfl, rfl⟩
  · rename_i answer outcome
    exact .inr (.inr ⟨answer, outcome, (Option.some.inj h).symm⟩)
  · cases h

/-- The syncs of a watcher take the same steps. -/
theorem Watch.Watcher.syncStep_eq (w : Watch.Watcher) (now index : Nat) (call : SyncCall)
    (input : Watch.SyncInput) :
    w.syncStep now index call input =
      (call.advance w.reconciler now input).map fun next => w.moveSync index next.1 next.2 := by
  cases call <;> cases input <;> rfl

/-- The reconciler, and the syncs that were called so far. -/
structure Session where
  reconciler : Reconciler := .initial
  syncs : List SyncCall := []

namespace Session

inductive Move where
  | event (e : Event) (outcome : Outcome)
  | prune (outcome : Outcome)
  | serve (ports : Reservation.Ports) (q : Http.Request) (outcome : Outcome)
  /-- A sync is called. -/
  | sync
  /-- A sync gets what it waits for. -/
  | advance (index : Nat) (input : Watch.SyncInput)

/-- The session after a move, and what was done in it. -/
structure Step where
  after : Session
  acts : List Act := []

/-- The result of a move at time `now`. The table is free before it and after it. -/
def step (g : Session) (now : Nat) : Move → Option Step
  | .event e outcome =>
    let handled := g.reconciler.handle e now outcome
    some ⟨{ g with reconciler := handled.after }, handled.acts⟩
  | .prune outcome =>
    let pruned := g.reconciler.prune now outcome
    some ⟨{ g with reconciler := pruned.after }, pruned.acts⟩
  | .serve ports q outcome =>
    let served := Reservation.serve ports g.reconciler q now outcome
    some ⟨{ g with reconciler := served.after }, served.acts⟩
  | .sync => some ⟨{ g with syncs := g.syncs ++ [.fetching] }, []⟩
  | .advance index input => do
    let (r, next) ← (← g.syncs[index]?).advance g.reconciler now input
    return ⟨⟨r, g.syncs.set index next.call⟩, next.acts⟩

/-- What a run may come to, and all that was done in it. -/
inductive Reached : Session → List Act → Prop
  | start : Reached {} []
  | step {g : Session} {acts : List Act} {now : Nat} {move : Move} {next : Step}
      (h : Reached g acts) (hs : g.step now move = some next) :
      Reached next.after (acts ++ next.acts)

theorem advance_cases {g : Session} {now index : Nat} {input : Watch.SyncInput} {next : Step}
    (hs : g.step now (.advance index input) = some next) :
    ∃ (call : SyncCall) (r : Reconciler) (sync : SyncStep),
      call.advance g.reconciler now input = some (r, sync) ∧
      next = ⟨⟨r, g.syncs.set index sync.call⟩, sync.acts⟩ := by
  obtain ⟨call, -, hs⟩ := Option.bind_eq_some_iff.1 hs
  obtain ⟨⟨r, sync⟩, hadvance, hs⟩ := Option.bind_eq_some_iff.1 hs
  exact ⟨call, r, sync, hadvance, (Option.some.inj hs).symm⟩

/-- What every call keeps holds of the reconciler of every run. -/
theorem Reached.keeps {P : Reconciler → Prop} (hstart : P .initial)
    (hevent : ∀ r e now outcome, P r → P (r.handle e now outcome).after)
    (hprune : ∀ r now outcome, P r → P (r.prune now outcome).after)
    (hserve : ∀ r ports q now outcome, P r →
      P (Reservation.serve ports r q now outcome).after)
    (hadvance : ∀ (call : SyncCall) r now input next, P r →
      call.advance r now input = some next → P next.1)
    {g : Session} {acts : List Act} (h : Reached g acts) : P g.reconciler := by
  induction h with
  | start => exact hstart
  | @step g acts now move next _ hs ih =>
    cases move with
    | event e outcome =>
      obtain rfl := Option.some.inj hs
      exact hevent _ e now outcome ih
    | prune outcome =>
      obtain rfl := Option.some.inj hs
      exact hprune _ now outcome ih
    | serve ports q outcome =>
      obtain rfl := Option.some.inj hs
      exact hserve _ ports q now outcome ih
    | sync =>
      obtain rfl := Option.some.inj hs
      exact ih
    | advance index input =>
      obtain ⟨call, r, sync, hadv, rfl⟩ := advance_cases hs
      exact hadvance call _ now input _ ih hadv

theorem Reached.event {g : Session} {acts : List Act} (h : Reached g acts) (e : Event) (now : Nat)
    (outcome : Outcome) :
    Reached { g with reconciler := (g.reconciler.handle e now outcome).after }
      (acts ++ (g.reconciler.handle e now outcome).acts) :=
  @Reached.step g acts now (.event e outcome) _ h rfl

end Session
end RouteSync
