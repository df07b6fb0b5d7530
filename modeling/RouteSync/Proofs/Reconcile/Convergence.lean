import RouteSync.Proofs.Reconcile.Configured
import RouteSync.Proofs.Table.Truth

/-! A sync and the events around it lead to the same table, wherever the listing was taken and
however many of the events came while it was on its way. -/
namespace RouteSync

/-- Events are held only while a listing is on its way. -/
def Reconciler.Calm (r : Reconciler) : Prop := r.syncing = false → r.held = []

namespace Reconciler

variable {r : Reconciler}

theorem Calm.withTable (h : r.Calm) (t : Table) : Calm { r with table := t } := h

theorem calm_handle (h : r.Calm) (e : Event) (now : Nat) (outcome : Outcome) :
    (r.handle e now outcome).after.Calm := by
  unfold handle
  split
  · rename_i hsyncing
    intro hidle
    rw [hsyncing] at hidle
    cases hidle
  · exact h.withTable _

theorem calm_update (h : r.Calm) (routes : List (Key × List Server)) (now : Nat)
    (outcome : Outcome) : (r.update routes now outcome).after.Calm := by
  unfold update
  dsimp only
  split
  · exact h.withTable _
  · split <;> exact h.withTable _

end Reconciler

theorem Reservation.calm_serve {r : Reconciler} (h : r.Calm) (ports : Ports) (q : Http.Request)
    (now : Nat) (outcome : Outcome) : (serve ports r q now outcome).after.Calm := by
  unfold serve
  split
  · exact h
  split
  · exact h
  split
  · exact h
  · rename_i routes _
    dsimp only [apply]
    split <;> exact Reconciler.calm_update h routes now outcome

theorem SyncCall.calm_advance {call : SyncCall} {r : Reconciler} (h : r.Calm) {now : Nat}
    {input : Watch.SyncInput} {next : Reconciler × SyncStep}
    (hn : call.advance r now input = some next) : next.1.Calm := by
  obtain ⟨hsame, -⟩ | rfl | ⟨answer, outcome, rfl⟩ := advance_cases hn
  · rwa [hsame]
  · unfold enter
    split
    · exact h
    · exact fun hidle => Bool.noConfusion hidle
  · exact fun _ => rfl

theorem Session.Reached.calm {g : Session} {acts : List Act} (h : Reached g acts) :
    g.reconciler.Calm :=
  h.keeps (P := Reconciler.Calm) (fun _ => rfl)
    (fun _ e now outcome hr => Reconciler.calm_handle hr e now outcome)
    (fun _ _ _ hr => hr.withTable _)
    (fun _ ports q now outcome hr => Reservation.calm_serve hr ports q now outcome)
    (fun _ _ _ _ _ hr hn => SyncCall.calm_advance hr hn)

/-- An event, when it comes, and how the proxy takes what it leads to. -/
structure Delivery where
  event : Event
  now : Nat
  outcome : Outcome

namespace Reconciler

def deliver (r : Reconciler) (ds : List Delivery) : Reconciler :=
  ds.foldl (fun r d => (r.handle d.event d.now d.outcome).after) r

variable {r : Reconciler}

/-- During a sync all that comes is held. -/
theorem deliver_of_syncing (h : r.syncing = true) (ds : List Delivery) :
    r.deliver ds = { r with held := r.held ++ ds.map (·.event) } := by
  induction ds generalizing r with
  | nil => simp [deliver]
  | cons d ds ih =>
    have hd : (r.handle d.event d.now d.outcome).after =
        { r with held := r.held ++ [d.event] } := by
      rw [handle, if_pos h]
    have hsplit : r.deliver (d :: ds) = deliver (r.handle d.event d.now d.outcome).after ds := rfl
    rw [hsplit, hd]
    simpa using ih (r := { r with held := r.held ++ [d.event] }) h

/-- Without a sync all that comes is put into effect. -/
theorem deliver_of_idle (h : r.syncing = false) (hs : r.table.Sound) (ds : List Delivery) :
    (r.deliver ds).table.Sound ∧ ∀ k p, (r.deliver ds).table.server? k p =
      (ds.map (·.event)).foldl (fun stored e => e.revise k p stored) (r.table.server? k p) := by
  induction ds generalizing r with
  | nil => exact ⟨hs, fun _ _ => rfl⟩
  | cons d ds ih =>
    have hd : (r.handle d.event d.now d.outcome).after =
        { r with table := (r.table.apply d.event d.now).table } := by
      rw [handle, if_neg (by simp [h])]
      rfl
    have hsplit : r.deliver (d :: ds) = deliver (r.handle d.event d.now d.outcome).after ds := rfl
    obtain ⟨hsound, hall⟩ := ih (r := { r with table := (r.table.apply d.event d.now).table }) h
      (hs.honest_apply d.event d.now).sound
    rw [hsplit, hd]
    refine ⟨hsound, fun k p => ?_⟩
    rw [hall k p, hs.server?_apply]
    rfl

/-- The end of a sync that got its listing: each backend is where it was or where the listing has
it, and from there on follows the events that were held. -/
theorem finishSync_server? (hs : r.table.Sound) {log : List Event} {ms : List Mapping}
    (hms : Lists ms log) (now : Nat) (outcome : Outcome) :
    ((r.finishSync (.ok ms) now outcome).after).table.Sound ∧
      ∀ k p, ∃ stored, (stored = r.table.server? k p ∨ stored = truth log k p) ∧
        ((r.finishSync (.ok ms) now outcome).after).table.server? k p =
          r.held.foldl (fun stored e => e.revise k p stored) stored := by
  refine ⟨(honest_finalChange hs (.ok ms) now).sound, fun k p => ?_⟩
  exact ⟨(r.table.merge ms now).table.server? k p, hs.server?_merge_of_lists hms now,
    (hs.honest_merge ms now).sound.server?_replay r.held now k p⟩

end Reconciler

namespace Session

/-- The table shows an early part of the log, a sync starts, and the events of the rest are
delivered. The listing shows some part of the log that is no shorter. Between its start and its end
the sync leaves the reconciler alone. -/
theorem Reached.sync_converges {g : Session} {acts : List Act} (hg : Reached g acts)
    (hidle : g.reconciler.syncing = false) {log : List Event} (hlog : Ordered log)
    {start point : Nat} (hle : start ≤ point)
    (htable : g.reconciler.table.Shows (log.take start))
    {ms : List Mapping} (hms : Lists ms (log.take point))
    {early late : List Delivery} (hrest : (early ++ late).map (·.event) = log.drop start)
    (now : Nat) (outcome : Outcome) :
    let entered := (SyncCall.enter g.reconciler).1
    let merged := ((entered.deliver early).finishSync (.ok ms) now outcome).after
    (merged.deliver late).table.Shows log ∧
      ∀ k e, (merged.deliver late).table.get? k = some e → e ≠ [] := by
  intro entered merged
  have hentered : entered = { g.reconciler with syncing := true } := by
    simp [entered, SyncCall.enter, hidle]
  have hwaiting : entered.deliver early =
      { g.reconciler with syncing := true, held := early.map (·.event) } := by
    rw [hentered, Reconciler.deliver_of_syncing rfl]
    simp [hg.calm hidle]
  have hsound : (entered.deliver early).table.Sound := by
    rw [hwaiting]
    exact hg.sound
  obtain ⟨hmerged, hserver⟩ := Reconciler.finishSync_server? hsound hms now outcome
  obtain ⟨hfinal, hall⟩ := Reconciler.deliver_of_idle (r := merged) rfl hmerged late
  refine ⟨hfinal.shows_iff.2 fun k p => ?_, fun _ _ he => hfinal.nonempty he⟩
  obtain ⟨stored, hstored, hheld⟩ := hserver k p
  have hreached : stored = truth (log.take start) k p ∨ stored = truth (log.take point) k p := by
    rcases hstored with h | h
    · rw [hwaiting] at h
      exact .inl (h.trans (hg.sound.shows_iff.1 htable k p))
    · exact .inr h
  have hevents : (merged.deliver late).table.server? k p =
      (log.drop start).foldl (fun stored e => e.revise k p stored) stored := by
    rw [hall k p, hheld, hwaiting, ← List.foldl_append, ← List.map_append, hrest]
  rw [hevents]
  rcases hreached with rfl | rfl
  · exact foldl_revise_truth hlog (Nat.le_refl start)
  · exact foldl_revise_truth hlog hle

theorem update_during_sync_is_kept :
    let upsert (index : UInt32) : Event :=
      ⟨.upsert, .bare 1024 "10.0.0.1" 8080 ⟨"a", index⟩⟩
    let entered := (SyncCall.enter .initial).1
    let merged := ((entered.deliver [⟨upsert 1, 5, .ok ()⟩]).finishSync (.ok [(upsert 1).mapping])
      6 (.ok ())).after
    (merged.deliver [⟨upsert 2, 7, .ok ()⟩]).table.Shows [upsert 1, upsert 2] := by
  intro upsert entered merged
  have hroute (index : UInt32) : (upsert index).mapping.route = _ :=
    Mapping.route_bare (q := 1024) (r := 8080) (by decide) (by decide) (by decide +kernel)
      (by decide +kernel) ⟨"a", index⟩
  have hlog : Ordered [upsert 1, upsert 2] := by
    refine List.pairwise_pair.2 fun k p s s' hs hs' _ => ?_
    have h₁ := (Event.serverAt_eq_some_iff.1 hs).1
    have h₂ := (Event.serverAt_eq_some_iff.1 hs').1
    rw [hroute] at h₁ h₂
    cases h₁
    cases h₂
    decide
  have htable : Table.empty.Shows [] := fun k s => by
    simp [truth, Table.entry, Table.get?, Table.empty, Entry.servers]
  have hrest : ([Delivery.mk (upsert 1) 5 (.ok ())] ++ [Delivery.mk (upsert 2) 7 (.ok ())]).map
      Delivery.event = [upsert 1, upsert 2].drop 0 := rfl
  exact (Reached.start.sync_converges rfl hlog (Nat.zero_le 1) htable
    (Lists.upserted (upsert 1).mapping) hrest 6 (.ok ())).1

end Session
end RouteSync
