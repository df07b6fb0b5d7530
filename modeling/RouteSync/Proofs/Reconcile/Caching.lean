import RouteSync.Proofs.Reconcile.Convergence

/-! Syncs come and go among the events, and no event is lost, doubled or put out of order. -/
namespace RouteSync

/-- One thing that a call does to the table, or says of it. -/
inductive Deed where
  | event (e : Event) (now : Nat)
  | listing (answer : Reconciler.Listing) (now : Nat)
  | prune (now : Nat)
  | replace (routes : List (Key × List Server)) (now : Nat)
  | note (record : Log.Record)

namespace Deed

def change (t : Table) : Deed → Change
  | .event e now => t.apply e now
  | .listing answer now => Reconciler.mergeListing t answer now
  | .prune now => t.prune now
  | .replace routes now => (Reconciler.setAll now (t.unchanged []) routes).1
  | .note record => t.unchanged [record]

def event? : Deed → Option Event
  | .event e _ => some e
  | _ => none

end Deed

/-- Deeds one after another, as one change. -/
def performed (t : Table) (deeds : List Deed) : Change :=
  deeds.foldl (fun change d => Table.Change.then change d.change) (t.unchanged [])

/-- The events that were put into effect, in order. -/
def putIntoEffect (deeds : List Deed) : List Event := deeds.filterMap Deed.event?

@[simp] theorem putIntoEffect_append (deeds more : List Deed) :
    putIntoEffect (deeds ++ more) = putIntoEffect deeds ++ putIntoEffect more :=
  List.filterMap_append

namespace Table

theorem Change.then_assoc (c : Change) (next last : Table → Change) :
    Change.then (Change.then c next) last =
      Change.then c fun t => Change.then (next t) last := by
  simp [Change.then, Bool.or_assoc]

theorem Change.unchanged_then (t : Table) (next : Table → Change) :
    Change.then (t.unchanged []) next = next t := by
  simp [Change.then, unchanged]

theorem foldl_then {α : Type} (next : α → Table → Change) (xs : List α) (c : Change) :
    xs.foldl (fun change x => Change.then change (next x)) c =
      Change.then c fun t =>
        xs.foldl (fun change x => Change.then change (next x)) (t.unchanged []) := by
  induction xs generalizing c with
  | nil => simp [Change.then, unchanged]
  | cons x xs ih =>
    rw [List.foldl_cons, ih, Change.then_assoc]
    congr 1
    funext t
    rw [List.foldl_cons, ih (Change.then (t.unchanged []) (next x)), Change.unchanged_then]

end Table

open Table in
theorem performed_append (t : Table) (deeds more : List Deed) :
    performed t (deeds ++ more) = Change.then (performed t deeds) (performed · more) := by
  rw [performed, List.foldl_append, foldl_then]
  rfl

theorem performed_singleton (t : Table) (d : Deed) : performed t [d] = d.change t :=
  Table.Change.unchanged_then t d.change

theorem performed_events (t : Table) (es : List Event) (now : Nat) :
    performed t (es.map (.event · now)) = t.replay es now :=
  List.foldl_map

namespace Reconciler

variable {r : Reconciler}

/-- What is done when an event comes: no more than a note if it is held. -/
def handleDeeds (r : Reconciler) (e : Event) (now : Nat) : List Deed :=
  if r.syncing then [.note (heldRecord e)] else [.event e now]

/-- What is done when a sync ends. -/
def finishDeeds (r : Reconciler) (answer : Listing) (now : Nat) : List Deed :=
  .listing answer now :: (replayRecords r.held).map .note ++ r.held.map (.event · now)

/-- A step does no more and no less than some deeds: they make the table after it, and what it
hands over and tells. -/
def Does (before : Table) (deeds : List Deed) (outcome : Outcome) (after : Table)
    (acts : List Act) : Prop :=
  after = (performed before deeds).table ∧ acts = publish (performed before deeds) outcome

theorem does_handle (r : Reconciler) (e : Event) (now : Nat) (outcome : Outcome) :
    Does r.table (r.handleDeeds e now) outcome (r.handle e now outcome).after.table
      (r.handle e now outcome).acts := by
  unfold handle handleDeeds
  split
  · exact ⟨rfl, rfl⟩
  · rw [Does, performed_singleton]
    exact ⟨rfl, rfl⟩

theorem performed_finishDeeds (r : Reconciler) (answer : Listing) (now : Nat) :
    performed r.table (r.finishDeeds answer now) = r.finalChange answer now := by
  have hnotes (t : Table) : performed t ((replayRecords r.held).map .note) =
      t.unchanged (replayRecords r.held) := by
    unfold replayRecords
    split <;> rfl
  have hsplit : r.finishDeeds answer now =
      [.listing answer now] ++ ((replayRecords r.held).map .note ++ r.held.map (.event · now)) :=
    rfl
  rw [hsplit, performed_append, performed_singleton]
  unfold finalChange Deed.change
  congr 1
  funext t
  rw [performed_append, hnotes]
  simp [Table.Change.then, Table.unchanged, performed_events]

theorem does_finishSync (r : Reconciler) (answer : Listing) (now : Nat) (outcome : Outcome) :
    Does r.table (r.finishDeeds answer now) outcome (r.finishSync answer now outcome).after.table
      (r.finishSync answer now outcome).acts := by
  rw [Does, performed_finishDeeds]
  exact ⟨rfl, rfl⟩

theorem after_update (r : Reconciler) (routes : List (Key × List Server)) (now : Nat)
    (outcome : Outcome) :
    (r.update routes now outcome).after =
      { r with table := (performed r.table [.replace routes now]).table } := by
  rw [performed_singleton, Deed.change]
  unfold update
  dsimp only
  split
  · rfl
  · split <;> rfl

/-- An event that comes is put into effect or stands last among those held. -/
theorem events_handle (hcalm : r.Calm) (e : Event) (now : Nat) (outcome : Outcome) :
    putIntoEffect (r.handleDeeds e now) ++ (r.handle e now outcome).after.held = r.held ++ [e] := by
  unfold handle handleDeeds
  cases hsyncing : r.syncing with
  | true => rfl
  | false =>
    have hheld : r.held = [] := hcalm hsyncing
    simp [commit, putIntoEffect, Deed.event?, hheld]

/-- The end of a sync puts all events into effect that are held. -/
theorem events_finishDeeds (r : Reconciler) (answer : Listing) (now : Nat) :
    putIntoEffect (r.finishDeeds answer now) = r.held := by
  have hnotes : putIntoEffect (.listing answer now :: (replayRecords r.held).map .note) = [] := by
    unfold replayRecords
    split <;> rfl
  rw [finishDeeds, putIntoEffect_append, hnotes, List.nil_append, putIntoEffect,
    List.filterMap_map]
  exact List.filterMap_some

end Reconciler

namespace SyncCall

/-- Between the setting of the flag and its clearing. -/
def holds : SyncCall → Bool
  | .fetching | .entering | .finished => false
  | .listing | .refreshing | .relisting | .merging _ => true

/-- What a step of a sync does to the table. -/
def deeds (call : SyncCall) (r : Reconciler) (now : Nat) (input : Watch.SyncInput) : List Deed :=
  match call, input with
  | .merging answer, .table _ => r.finishDeeds answer now
  | _, _ => []

/-- A step of a sync leaves the reconciler alone, sets the flag, or ends the sync. -/
inductive Moves (call : SyncCall) (r : Reconciler) (now : Nat) (input : Watch.SyncInput) :
    Reconciler → SyncStep → Prop
  | waits {next : SyncStep} (hnext : next.call.holds = call.holds)
      (hdeeds : call.deeds r now input = []) : Moves call r now input r next
  | enters {next : SyncStep} (hcall : call.holds = false) (hfree : r.syncing = false)
      (hnext : next.call.holds = true) (hdeeds : call.deeds r now input = []) :
      Moves call r now input { r with syncing := true } next
  | ends {answer : Reconciler.Listing} (outcome : Outcome) (hcall : call.holds = true)
      (hdeeds : call.deeds r now input = r.finishDeeds answer now) :
      Moves call r now input (r.finishSync answer now outcome).after
        ⟨.finished, (r.finishSync answer now outcome).acts⟩

theorem moves_of_advance {call : SyncCall} {r : Reconciler} {now : Nat} {input : Watch.SyncInput}
    {next : Reconciler × SyncStep} (h : call.advance r now input = some next) :
    call.Moves r now input next.1 next.2 := by
  unfold advance at h
  split at h
  · rename_i answer
    obtain rfl := Option.some.inj h
    cases answer <;> exact .waits rfl rfl
  · obtain rfl := Option.some.inj h
    unfold enter
    split
    · exact .waits rfl rfl
    · rename_i hfree
      exact .enters rfl (Bool.eq_false_iff.2 hfree) rfl rfl
  · rename_i answer
    obtain rfl := Option.some.inj h
    unfold listed
    split <;> exact .waits rfl rfl
  · rename_i answer
    obtain rfl := Option.some.inj h
    cases answer <;> exact .waits rfl rfl
  · obtain rfl := Option.some.inj h
    exact .waits rfl rfl
  · rename_i outcome
    obtain rfl := Option.some.inj h
    exact .ends outcome rfl rfl
  · cases h

end SyncCall

namespace Session

/-- Where calls may lead to, with the events that arrived in them and all that was done to the
table. -/
inductive History : Session → List Event → List Deed → Prop
  | start : History {} [] []
  | event {g : Session} {arrived : List Event} {deeds : List Deed} (h : History g arrived deeds)
      (e : Event) (now : Nat) (outcome : Outcome) :
      History { g with reconciler := (g.reconciler.handle e now outcome).after } (arrived ++ [e])
        (deeds ++ g.reconciler.handleDeeds e now)
  | prune {g : Session} {arrived : List Event} {deeds : List Deed} (h : History g arrived deeds)
      (now : Nat) (outcome : Outcome) :
      History { g with reconciler := (g.reconciler.prune now outcome).after } arrived
        (deeds ++ [.prune now])
  | update {g : Session} {arrived : List Event} {deeds : List Deed} (h : History g arrived deeds)
      (routes : List (Key × List Server)) (now : Nat) (outcome : Outcome) :
      History { g with reconciler := (g.reconciler.update routes now outcome).after } arrived
        (deeds ++ [.replace routes now])
  | sync {g : Session} {arrived : List Event} {deeds : List Deed} (h : History g arrived deeds) :
      History { g with syncs := g.syncs ++ [.fetching] } arrived deeds
  | advance {g : Session} {arrived : List Event} {deeds : List Deed} (h : History g arrived deeds)
      (index now : Nat) (input : Watch.SyncInput) {call : SyncCall}
      {next : Reconciler × SyncStep} (hcall : g.syncs[index]? = some call)
      (hnext : call.advance g.reconciler now input = some next) :
      History ⟨next.1, g.syncs.set index next.2.call⟩ arrived
        (deeds ++ call.deeds g.reconciler now input)

/-- The books of a session: what was done to the table makes the table, no event is missing from
them, and the flag belongs to one sync. -/
structure Accounts (g : Session) (arrived : List Event) (deeds : List Deed) : Prop where
  table : g.reconciler.table = (performed .empty deeds).table
  events : putIntoEffect deeds ++ g.reconciler.held = arrived
  calm : g.reconciler.Calm
  holders : g.syncs.countP SyncCall.holds = g.reconciler.syncing.toNat

variable {g : Session} {arrived : List Event} {deeds : List Deed}

theorem Accounts.table_append (h : Accounts g arrived deeds) (more : List Deed) :
    (performed .empty (deeds ++ more)).table = (performed g.reconciler.table more).table := by
  rw [performed_append, h.table]
  rfl

/-- A sync that moves on from `call` to `next` takes its place among the holders. -/
theorem countP_holds_set {syncs : List SyncCall} {index : Nat} {call : SyncCall}
    (hcall : syncs[index]? = some call) (next : SyncCall) :
    (syncs.set index next).countP SyncCall.holds + call.holds.toNat =
      syncs.countP SyncCall.holds + next.holds.toNat := by
  obtain ⟨hlt, hget⟩ := List.getElem?_eq_some_iff.1 hcall
  have hpos : call.holds.toNat ≤ syncs.countP SyncCall.holds := by
    cases hc : call.holds with
    | false => exact Nat.zero_le _
    | true => exact List.one_le_countP_iff.2 ⟨call, hget ▸ List.getElem_mem hlt, hc⟩
  rw [List.countP_set hlt, hget]
  cases hc : call.holds <;> cases hn : next.holds <;> simp_all

namespace Accounts

theorem start : Accounts {} [] [] := ⟨rfl, rfl, fun _ => rfl, rfl⟩

theorem event (h : Accounts g arrived deeds) (e : Event) (now : Nat) (outcome : Outcome) :
    Accounts { g with reconciler := (g.reconciler.handle e now outcome).after } (arrived ++ [e])
      (deeds ++ g.reconciler.handleDeeds e now) where
  table := by
    rw [h.table_append]
    exact (Reconciler.does_handle g.reconciler e now outcome).1
  events := by
    rw [putIntoEffect_append, List.append_assoc, Reconciler.events_handle h.calm,
      ← List.append_assoc, h.events]
  calm := Reconciler.calm_handle h.calm e now outcome
  holders := by
    have hflag : (g.reconciler.handle e now outcome).after.syncing = g.reconciler.syncing := by
      unfold Reconciler.handle
      split <;> rfl
    rw [hflag, h.holders]

theorem prune (h : Accounts g arrived deeds) (now : Nat) (outcome : Outcome) :
    Accounts { g with reconciler := (g.reconciler.prune now outcome).after } arrived
      (deeds ++ [.prune now]) where
  table := by
    rw [h.table_append, performed_singleton]
    rfl
  events := by
    rw [putIntoEffect_append, ← h.events]
    exact congrArg (· ++ _) (List.append_nil _)
  calm := h.calm.withTable _
  holders := h.holders

theorem update (h : Accounts g arrived deeds) (routes : List (Key × List Server)) (now : Nat)
    (outcome : Outcome) :
    Accounts { g with reconciler := (g.reconciler.update routes now outcome).after } arrived
      (deeds ++ [.replace routes now]) := by
  rw [Reconciler.after_update]
  refine ⟨?_, ?_, h.calm.withTable _, h.holders⟩
  · rw [h.table_append]
  · rw [putIntoEffect_append, ← h.events]
    exact congrArg (· ++ _) (List.append_nil _)

theorem sync (h : Accounts g arrived deeds) :
    Accounts { g with syncs := g.syncs ++ [.fetching] } arrived deeds where
  table := h.table
  events := h.events
  calm := h.calm
  holders := by
    rw [List.countP_append, h.holders]
    rfl

/-- A sync that holds the flag is the only one, and the flag is set. -/
theorem syncing_of_holds (h : Accounts g arrived deeds) {call : SyncCall} (hmem : call ∈ g.syncs)
    (hholds : call.holds = true) : g.reconciler.syncing = true := by
  have hpos : 1 ≤ g.syncs.countP SyncCall.holds := List.one_le_countP_iff.2 ⟨call, hmem, hholds⟩
  rw [h.holders] at hpos
  exact Bool.toNat_eq_one.1 (Nat.le_antisymm (Bool.toNat_le _) hpos)

theorem advance (h : Accounts g arrived deeds) {index now : Nat} {input : Watch.SyncInput}
    {call : SyncCall} {next : Reconciler × SyncStep} (hcall : g.syncs[index]? = some call)
    (hnext : call.advance g.reconciler now input = some next) :
    Accounts ⟨next.1, g.syncs.set index next.2.call⟩ arrived
      (deeds ++ call.deeds g.reconciler now input) := by
  have hcount := countP_holds_set hcall next.2.call
  have hcalm := SyncCall.calm_advance h.calm hnext
  have hmoves := SyncCall.moves_of_advance hnext
  generalize next.1 = r, next.2 = sync at hcount hcalm hmoves
  rw [h.holders] at hcount
  cases hmoves with
  | waits hholds hdeeds =>
    rw [hdeeds, List.append_nil]
    rw [hholds] at hcount
    exact ⟨h.table, h.events, hcalm, Nat.add_right_cancel hcount⟩
  | enters hidle hfree hholds hdeeds =>
    rw [hdeeds, List.append_nil]
    refine ⟨h.table, h.events, hcalm, ?_⟩
    simpa [hidle, hfree, hholds] using hcount
  | ends outcome hholds hdeeds =>
    have hflag := h.syncing_of_holds (List.mem_of_getElem? hcall) hholds
    rw [hdeeds]
    refine ⟨?_, ?_, hcalm, ?_⟩
    · rw [h.table_append]
      exact (Reconciler.does_finishSync g.reconciler _ now outcome).1
    · rw [putIntoEffect_append, Reconciler.events_finishDeeds, h.events]
      exact List.append_nil _
    · rw [hholds, hflag] at hcount
      exact Nat.add_right_cancel hcount

end Accounts

theorem History.accounts (h : History g arrived deeds) : Accounts g arrived deeds := by
  induction h with
  | start => exact .start
  | event _ e now outcome ih => exact ih.event e now outcome
  | prune _ now outcome ih => exact ih.prune now outcome
  | update _ routes now outcome ih => exact ih.update routes now outcome
  | sync _ ih => exact ih.sync
  | advance _ index now input hcall hnext ih => exact ih.advance hcall hnext

/-- Events are put into effect and held in the order in which they arrive. They are held only while
some sync is under way, no two of which are at a time, and when it is over none is held any more. -/
theorem History.events_in_order (h : History g arrived deeds) :
    g.reconciler.table = (performed .empty deeds).table ∧
      putIntoEffect deeds ++ g.reconciler.held = arrived ∧
      (g.reconciler.syncing = false → g.reconciler.held = []) ∧
      g.syncs.countP SyncCall.holds = (if g.reconciler.syncing then 1 else 0) ∧
      (∀ (e : Event) (now : Nat) (outcome : Outcome),
        Reconciler.Does g.reconciler.table (g.reconciler.handleDeeds e now) outcome
          (g.reconciler.handle e now outcome).after.table
          (g.reconciler.handle e now outcome).acts) ∧
      ∀ (index now : Nat) (input : Watch.SyncInput) (call : SyncCall)
        (next : Reconciler × SyncStep), g.syncs[index]? = some call → call.holds = true →
        call.advance g.reconciler now input = some next → next.2.call = .finished →
        next.1.syncing = false ∧ next.1.held = [] ∧
          putIntoEffect (deeds ++ call.deeds g.reconciler now input) = arrived ∧
          ∃ outcome, Reconciler.Does g.reconciler.table (call.deeds g.reconciler now input) outcome
            next.1.table next.2.acts := by
  have haccounts := h.accounts
  refine ⟨haccounts.table, haccounts.events, haccounts.calm, ?_,
    fun e now outcome => Reconciler.does_handle g.reconciler e now outcome, ?_⟩
  · rw [haccounts.holders]
    cases g.reconciler.syncing <;> rfl
  · intro index now input call next hcall hholds hnext hfinished
    have hevents := (haccounts.advance hcall hnext).events
    have hmoves := SyncCall.moves_of_advance hnext
    generalize next.1 = r, next.2 = sync at hevents hmoves hfinished
    cases hmoves with
    | waits hsame =>
      rw [hfinished, hholds] at hsame
      cases hsame
    | enters hidle =>
      rw [hholds] at hidle
      cases hidle
    | @ends answer outcome _ hdeeds =>
      refine ⟨rfl, rfl, (List.append_nil _).symm.trans hevents, outcome, ?_⟩
      rw [hdeeds]
      exact Reconciler.does_finishSync g.reconciler answer now outcome

/-- An event comes while a refused token cannot be refreshed. -/
theorem held_event_survives_failed_sync :
    ∃ g arrived deeds, History g arrived deeds ∧ arrived.length = 2 ∧
      g.reconciler.held.length = 1 ∧
      ∃ call next, g.syncs[0]? = some call ∧ call.holds = true ∧
        call.advance g.reconciler 4 (.table (.ok ())) = some next ∧ next.2.call = .finished ∧
        next.1.held = [] ∧
        putIntoEffect (deeds ++ call.deeds g.reconciler 4 (.table (.ok ()))) = arrived := by
  let e (action : Action) : Event := ⟨action, .bare 1024 "10.0.0.1" 8080 ⟨"a", 1⟩⟩
  have hcalled := (History.start.event (e .upsert) 0 (.ok ())).sync
  have hentered := (hcalled.advance 0 1 (.token (.ok "t")) rfl rfl).advance 0 1 (.table (.ok ()))
    rfl rfl
  have hheld := hentered.event (e .delete) 2 (.ok ())
  have hfailed := (hheld.advance 0 3 (.listing (.error (.unauthorized ""))) rfl rfl).advance 0 3
    (.token (.error "no token")) rfl rfl
  obtain ⟨-, -, -, -, -, hreturn⟩ := hfailed.events_in_order
  obtain ⟨-, hnone, hall, -⟩ := hreturn 0 4 (.table (.ok ())) _ _ rfl rfl rfl rfl
  exact ⟨_, _, _, hfailed, rfl, rfl, _, _, rfl, rfl, rfl, rfl, hnone, hall⟩

end Session
end RouteSync
