import RouteSync.Proofs.Reconcile.Session
import RouteSync.Proofs.Reservation.Routes

/-! The proxy is never behind the table: every step is one change of the table, and hands over what
it leaves if it changed anything. -/
namespace RouteSync

theorem configured_append (acts more : List Act) :
    configured (acts ++ more) = configured acts ++ configured more := List.filterMap_append

@[simp] theorem configured_logs (records : List Log.Record) :
    configured (Act.logs records) = [] := by
  simp [configured, Act.logs, List.filterMap_map, Function.comp_def, Act.snapshot?]

/-- What has to be handed over of a change. -/
def Change.news (c : Change) : List Snapshot := if c.changed then [c.table.snapshot] else []

/-- What is served and what was handed over go together: one honest change accounts for both. -/
def HandedOver (before after : Table) (acts : List Act) : Prop :=
  ∃ c, before.Honest c ∧ after = c.table ∧ configured acts = c.news

theorem HandedOver.sound {t u : Table} {acts : List Act} (h : HandedOver t u acts) : u.Sound := by
  obtain ⟨c, hc, rfl, -⟩ := h
  exact hc.sound

theorem handedOver_nothing {t : Table} (h : t.Sound) {acts : List Act}
    (ha : configured acts = []) : HandedOver t t acts :=
  ⟨t.unchanged [], Table.honest_unchanged h [], rfl, ha⟩

namespace Reconciler

theorem configured_publish (c : Change) (outcome : Outcome) :
    configured (publish c outcome) = c.news := by
  unfold publish Change.news
  rw [configured_append, configured_logs, List.nil_append]
  cases hc : c.changed with
  | false => rfl
  | true => cases outcome <;> rfl

variable {r : Reconciler}

theorem honest_mergeListing (h : r.table.Sound) (listing : Listing) (now : Nat) :
    r.table.Honest (mergeListing r.table listing now) := by
  cases listing with
  | ok mappings =>
    obtain ⟨hs, ht⟩ := h.honest_merge mappings now
    exact ⟨hs, ht⟩
  | error what => exact Table.honest_unchanged h _

/-- The change that ends a sync. -/
def finalChange (r : Reconciler) (listing : Listing) (now : Nat) : Change :=
  Table.Change.then (mergeListing r.table listing now) fun t =>
    let replayed := t.replay r.held now
    { replayed with log := replayRecords r.held ++ replayed.log }

theorem finishSync_eq (r : Reconciler) (listing : Listing) (now : Nat) (outcome : Outcome) :
    r.finishSync listing now outcome =
      ⟨⟨(r.finalChange listing now).table, false, []⟩,
        publish (r.finalChange listing now) outcome⟩ := rfl

theorem honest_finalChange (h : r.table.Sound) (listing : Listing) (now : Nat) :
    r.table.Honest (r.finalChange listing now) := by
  refine (honest_mergeListing h listing now).then fun t ht => ?_
  obtain ⟨hs, hc⟩ := ht.honest_replay r.held now
  exact ⟨hs, hc⟩

theorem honest_setAll {before : Table} {c : Change} (h : before.Honest c) (now : Nat)
    (routes : List (Key × List Server)) : before.Honest (setAll now c routes).1 := by
  induction routes generalizing c with
  | nil => exact h
  | cons route routes ih =>
    obtain ⟨k, servers⟩ := route
    unfold setAll
    split
    · rename_i next hc
      have hd := Entry.distinct_ofServers servers now
      have hset := (h.sound.exact_set hd hc).honest (h.sound.set hd hc)
      refine ih ⟨hset.sound, fun hfalse => ?_⟩
      obtain ⟨h₁, h₂⟩ := Bool.or_eq_false_iff.1 hfalse
      exact (hset.told h₂).trans (h.told h₁)
    · exact h

theorem setAll_fault (now : Nat) (c : Change) {routes : List (Key × List Server)}
    (hv : ∀ r ∈ routes, r.1.valid = true) : (setAll now c routes).2 = none := by
  induction routes generalizing c with
  | nil => rfl
  | cons route routes ih =>
    obtain ⟨k, servers⟩ := route
    have hc : c.table.set k (Entry.ofServers servers now) = .ok _ :=
      Table.set_eq_ok_iff.2 ⟨hv (k, servers) List.mem_cons_self, rfl⟩
    simp only [setAll, hc]
    exact ih _ fun r hr => hv r (List.mem_cons_of_mem _ hr)

theorem get?_setAll_of_ne {now : Nat} {c : Change} {routes : List (Key × List Server)} {k : Key}
    (h : ∀ r ∈ routes, r.1 ≠ k) :
    (setAll now c routes).1.table.get? k = c.table.get? k := by
  induction routes generalizing c with
  | nil => rfl
  | cons route routes ih =>
    have hroute : route.1 ≠ k := h route List.mem_cons_self
    have hroutes : ∀ r ∈ routes, r.1 ≠ k := fun r hr => h r (List.mem_cons_of_mem _ hr)
    unfold setAll
    split
    · rename_i next hc
      rw [ih hroutes, Table.get?_set_of_ne hc hroute.symm]
    · rfl

theorem handedOver_commit {c : Change} (h : r.table.Honest c) (outcome : Outcome) :
    HandedOver r.table (r.commit c outcome).after.table (r.commit c outcome).acts :=
  ⟨c, h, rfl, configured_publish c outcome⟩

theorem handedOver_handle (h : r.table.Sound) (e : Event) (now : Nat) (outcome : Outcome) :
    HandedOver r.table (r.handle e now outcome).after.table (r.handle e now outcome).acts := by
  unfold handle
  split
  · exact handedOver_nothing h rfl
  · exact handedOver_commit (h.honest_apply e now) outcome

theorem handedOver_prune (h : r.table.Sound) (now : Nat) (outcome : Outcome) :
    HandedOver r.table (r.prune now outcome).after.table (r.prune now outcome).acts :=
  handedOver_commit (h.honest_prune now) outcome

theorem handedOver_finishSync (h : r.table.Sound) (listing : Listing) (now : Nat)
    (outcome : Outcome) :
    HandedOver r.table (r.finishSync listing now outcome).after.table
      (r.finishSync listing now outcome).acts := by
  rw [finishSync_eq]
  exact ⟨_, honest_finalChange h listing now, rfl, configured_publish _ outcome⟩

/-- A replacement of valid keys is never refused half-way. -/
theorem handedOver_update (h : r.table.Sound) {routes : List (Key × List Server)}
    (hv : ∀ x ∈ routes, x.1.valid = true) (now : Nat) (outcome : Outcome) :
    HandedOver r.table (r.update routes now outcome).after.table
      (r.update routes now outcome).acts := by
  have hhonest := honest_setAll (Table.honest_unchanged h []) now routes
  have hfault := setAll_fault now (r.table.unchanged []) hv
  unfold update
  cases hs : setAll now (r.table.unchanged []) routes with
  | mk c fault =>
    rw [hs] at hhonest hfault
    obtain rfl : fault = none := hfault
    refine ⟨c, hhonest, ?_⟩
    cases hc : c.changed with
    | false => simp [Change.news, hc]
    | true =>
      simp only [Change.news, hc, if_true, configured_append, configured_logs, true_and]
      rfl

end Reconciler

theorem Reservation.handedOver_serve {r : Reconciler} (h : r.table.Sound) (ports : Ports)
    (q : Http.Request) (now : Nat) (outcome : Outcome) :
    HandedOver r.table (serve ports r q now outcome).after.table
      (serve ports r q now outcome).acts := by
  unfold serve
  split
  · exact handedOver_nothing h rfl
  split
  · exact handedOver_nothing h rfl
  split
  · exact handedOver_nothing h rfl
  · rename_i rs hrs
    obtain ⟨bs, -, hbs⟩ := bind_eq_ok_iff.1 hrs
    obtain ⟨c, hc, htable, hacts⟩ :=
      Reconciler.handedOver_update h (valid_of_routes hbs) now outcome
    refine ⟨c, hc, ?_⟩
    dsimp only [apply]
    split <;> exact ⟨htable, by rw [configured_append, hacts]; exact List.append_nil _⟩

theorem SyncCall.handedOver_advance {call : SyncCall} {r : Reconciler} (h : r.table.Sound)
    {now : Nat} {input : Watch.SyncInput} {next : Reconciler × SyncStep}
    (hn : call.advance r now input = some next) :
    HandedOver r.table next.1.table next.2.acts := by
  obtain ⟨hsame, hacts⟩ | rfl | ⟨answer, outcome, rfl⟩ := advance_cases hn
  · rw [hsame]
    exact handedOver_nothing h hacts
  · unfold enter
    split <;> exact handedOver_nothing h rfl
  · exact Reconciler.handedOver_finishSync h answer now outcome

namespace Session

theorem handedOver_step {g : Session} (h : g.reconciler.table.Sound) {now : Nat} {move : Move}
    {next : Step} (hs : g.step now move = some next) :
    HandedOver g.reconciler.table next.after.reconciler.table next.acts := by
  cases move with
  | event e outcome =>
    obtain rfl := Option.some.inj hs
    exact Reconciler.handedOver_handle h e now outcome
  | prune outcome =>
    obtain rfl := Option.some.inj hs
    exact Reconciler.handedOver_prune h now outcome
  | serve ports q outcome =>
    obtain rfl := Option.some.inj hs
    exact Reservation.handedOver_serve h ports q now outcome
  | sync =>
    obtain rfl := Option.some.inj hs
    exact handedOver_nothing h rfl
  | advance index input =>
    obtain ⟨call, r, sync, hadvance, rfl⟩ := advance_cases hs
    exact SyncCall.handedOver_advance h hadvance

theorem Reached.sound {g : Session} {acts : List Act} (h : Reached g acts) :
    g.reconciler.table.Sound := by
  induction h with
  | start => exact Table.sound_empty
  | step _ hs ih => exact (handedOver_step ih hs).sound

/-- The table serves what was handed over last, and whatever is handed over is what it serves. -/
theorem Reached.snapshot_eq_last_configured {g : Session} {acts : List Act} (h : Reached g acts) :
    g.reconciler.table.snapshot = (configured acts).getLastD .empty ∧
      ∀ now move next, g.step now move = some next →
        ∀ s ∈ configured next.acts, s = next.after.reconciler.table.snapshot := by
  constructor
  · induction h with
    | start => rfl
    | step h hs ih =>
      obtain ⟨c, hc, htable, hacts⟩ := handedOver_step h.sound hs
      rw [htable, configured_append, hacts]
      unfold Change.news
      cases hchanged : c.changed with
      | false => simpa using (hc.told hchanged).trans ih
      | true => simp
  · intro now move next hs s hmem
    obtain ⟨c, -, htable, hacts⟩ := handedOver_step h.sound hs
    rw [hacts, Change.news] at hmem
    split at hmem
    · rw [htable, List.mem_singleton.1 hmem]
    · cases hmem

/-- A record comes while a sync has its listing to wait for, and the servers of the listing are
pruned afterwards. -/
theorem held_record_outlasts_listing :
    ∃ g acts, Reached g acts ∧ (configured acts).length = 2 ∧
      (g.reconciler.table.entry ⟨1024, ""⟩).length = 1 ∧
      g.reconciler.table.snapshot = (configured acts).getLastD .empty := by
  let listed : Mapping := { Mapping.bare 1025 "10.0.0.2" 8080 ⟨"b", 1⟩ with ttl := some 10 }
  let event : Event := ⟨.upsert, .bare 1024 "10.0.0.1" 8080 ⟨"a", 1⟩⟩
  have hcalled := @Reached.step _ _ 0 .sync _ .start rfl
  have hfetched := @Reached.step _ _ 0 (.advance 0 (.token (.ok "t"))) _ hcalled rfl
  have hentered := @Reached.step _ _ 0 (.advance 0 (.table (.ok ()))) _ hfetched rfl
  have hheld := hentered.event event 1000 (.ok ())
  have hlisted := @Reached.step _ _ 2000 (.advance 0 (.listing (.ok [listed]))) _ hheld rfl
  have hmerged := @Reached.step _ _ 2000 (.advance 0 (.table (.ok ()))) _ hlisted rfl
  have hpruned := @Reached.step _ _ 13000 (.prune (.ok ())) _ hmerged rfl
  refine ⟨_, _, hpruned, ?_, ?_, hpruned.snapshot_eq_last_configured.1⟩
  · decide +kernel
  · decide +kernel

end Session
end RouteSync
