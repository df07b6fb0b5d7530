import RouteSync.Proofs.Clock.Ticker
import RouteSync.Proofs.Table.Confirmed
import RouteSync.Watch.Pruner

/-! A pruner keeps no server much longer than its confirmation holds, and takes none away sooner. -/
namespace RouteSync.Watch

open Clock

/-- An event that was taken, or else a prune. -/
structure Happening where
  time : Nat
  event : Option Event
  before : Reconciler
  after : Reconciler

/-- An event that is held for a sync confirms nothing. -/
def Happening.confirms (x : Happening) (k : Key) (p : String × UInt16) : Bool :=
  !x.before.syncing && x.event.any fun e => e.confirms x.after.table k p

/-- When the server at an endpoint of a key was last confirmed, by what the table said at first and
what happened since. -/
def lastConfirmed (first : Table) (past : List Happening) (k : Key) (p : String × UInt16) :
    Option Nat :=
  past.foldl (fun last x => if x.confirms k p then some x.time else last) (first.confirmed? k p)

namespace Pruner

/-- A prune at a tick, and what is known of it. -/
def noteTick (now : Nat) (s : Stage × List Happening) : Stage × List Happening :=
  (fire now s.1, s.2 ++ [⟨now, none, s.1.reconciler, (fire now s.1).reconciler⟩])

/-- What happened when every tick up to a time was made. -/
def ticked (p : Pruner) (target : Nat) (past : List Happening) : List Happening :=
  if p.running then (p.ticker.runUntil (clock ∘ Prod.fst) noteTick target (p.stage, past)).2.2
  else past

/-- The clock jumps, before any tick that is late by then. -/
def ahead (p : Pruner) (time : Nat) : Pruner :=
  { p with stage := clockTo (clock p.stage + time) p.stage }

/-- What happened when an event was taken. -/
def took (p : Pruner) (e : Event) (past : List Happening) : List Happening :=
  let q := p.tickTo (clock p.stage)
  let stage := q.stage.event e
  p.ticked (clock p.stage) past ++
    ⟨clock q.stage, some e, q.stage.reconciler, stage.reconciler⟩ ::
      if q.running && q.ticker.due ≤ clock stage then
        [⟨clock stage, none, stage.reconciler, stage.prune.reconciler⟩]
      else []

/-- A pruner that starts now, with whatever is on the stage. -/
def startOn (interval : Nat) (h : 0 < interval) (stage : Stage) : Pruner :=
  { ticker := ⟨interval, clock stage + interval, h⟩, stage }

theorem start_eq (interval : Nat) (h : 0 < interval) :
    start interval h = startOn interval h {} := by
  simp [start, startOn, clock]

/-- What a pruner that is not stopped may come to, and what happened on the way. -/
inductive Run (first : Pruner) : Pruner → List Happening → Prop
  | start : Run first first []
  | wait {p : Pruner} {past : List Happening} (h : Run first p past) (time : Nat) :
      Run first (p.wait time) (p.ticked (clock p.stage + time) past)
  | jump {p : Pruner} {past : List Happening} (h : Run first p past) (time : Nat) :
      Run first (p.jump time) ((p.ahead time).ticked (clock p.stage + time) past)
  | event {p : Pruner} {past : List Happening} (h : Run first p past) (e : Event) :
      Run first (p.event e) (p.took e past)
  /-- The proxy takes snapshots from now on, or refuses them. -/
  | proxy {p : Pruner} {past : List Happening} (h : Run first p past) (fails : Bool) :
      Run first { p with stage := { p.stage with
        outside := { p.stage.outside with configureFails := fails } } } past

end Pruner

@[simp] theorem lastConfirmed_concat (first : Table) (past : List Happening) (x : Happening)
    (k : Key) (p : String × UInt16) :
    lastConfirmed first (past ++ [x]) k p =
      if x.confirms k p then some x.time else lastConfirmed first past k p := by
  simp [lastConfirmed]

/-- Every server that a prune took away had a time, and it was over. -/
def Happening.Overdue (first : Table) (past : List Happening) (x : Happening) : Prop :=
  ∀ k, ∀ b ∈ x.before.table.entry k, x.after.table.server? k b.server.endpoint = none →
    b.server.ttl ≠ 0 ∧ ∃ last, lastConfirmed first past k b.server.endpoint = some last ∧
      last + b.server.ttl.toNat * 1000 < x.time

section Clock

variable {o : Outside}

theorem Outside.configureTime_noteAll (acts : List Act) :
    (o.noteAll acts).configureTime = o.configureTime := by
  induction acts generalizing o with
  | nil => rfl
  | cons act acts ih =>
    rw [noteAll, List.foldl_cons]
    refine ih.trans ?_
    cases act <;> rfl

theorem Outside.now_noteAll (h : o.configureTime = 0) (acts : List Act) :
    (o.noteAll acts).now = o.now := by
  induction acts generalizing o with
  | nil => rfl
  | cons act acts ih =>
    have hact : (o.note act).configureTime = 0 ∧ (o.note act).now = o.now := by
      cases act <;> simp [note, h]
    rw [noteAll, List.foldl_cons]
    exact (ih hact.1).trans hact.2

end Clock

namespace Pruner

section Fire

variable {s : Stage} {now : Nat}

theorem clock_fire (h : s.outside.configureTime = 0) (hnow : clock s ≤ now) :
    clock (fire now s) = now := by
  have hfree : (clockTo now s).outside.configureTime = 0 := h
  exact (Outside.now_noteAll hfree _).trans (Nat.max_eq_left hnow)

theorem table_fire (hnow : clock s ≤ now) :
    (fire now s).reconciler.table = (s.reconciler.table.prune now).table :=
  congrArg (fun time => (s.reconciler.table.prune time).table) (Nat.max_eq_left hnow)

theorem table_event (e : Event) : (s.event e).reconciler.table =
    if s.reconciler.syncing then s.reconciler.table
      else (s.reconciler.table.apply e (clock s)).table := by
  simp only [Stage.event, Stage.put, Reconciler.handle]
  split <;> rfl

end Fire

/-- What holds at any time between ticks and events: the next tick is not far, neither from now nor
from the end of any server's time, and what the table says of confirmations is what happened. -/
structure Timely (first : Table) (interval : Nat) (t : Ticker) (s : Stage)
    (past : List Happening) : Prop where
  interval_eq : t.interval = interval
  instant : s.outside.configureTime = 0
  sound : s.reconciler.table.Sound
  soon : t.due ≤ clock s + interval
  known : ∀ k, ∀ b ∈ s.reconciler.table.entry k,
    lastConfirmed first past k b.server.endpoint = some b.confirmed
  inTime : ∀ k, ∀ b ∈ s.reconciler.table.entry k, b.server.ttl ≠ 0 →
    t.due ≤ b.confirmed + b.server.ttl.toNat * 1000 + interval
  pruned : ∀ earlier x, earlier ++ [x] <+: past → x.event = none → x.Overdue first earlier

namespace Timely

variable {first : Table} {interval : Nat} {t : Ticker} {s : Stage} {past : List Happening}

theorem later (h : Timely first interval t s past) (now : Nat) :
    Timely first interval t (clockTo now s) past where
  interval_eq := h.interval_eq
  instant := h.instant
  sound := h.sound
  soon := Nat.le_trans h.soon (Nat.add_le_add_right (Nat.le_max_right ..) _)
  known := h.known
  inTime := h.inTime
  pruned := h.pruned

/-- One more happening is as good as all before it if it is an event, or a prune with reason. -/
theorem pruned_concat (h : Timely first interval t s past) {x : Happening}
    (hx : x.event = none → x.Overdue first past) (earlier : List Happening) (y : Happening)
    (hy : earlier ++ [y] <+: past ++ [x]) (hnone : y.event = none) : y.Overdue first earlier := by
  rcases List.prefix_concat_iff.1 hy with heq | hy
  · obtain ⟨rfl, rfl⟩ := List.append_singleton_inj.1 heq
    exact hx hnone
  · exact h.pruned earlier y hy hnone

/-- A prune takes away what ran out before it, and the next comes within an interval. -/
theorem tick (h : Timely first interval t s past) :
    Timely first interval (t.tick (t.next clock s)) (noteTick (t.next clock s) (s, past)).1
      (noteTick (t.next clock s) (s, past)).2 := by
  have hnow : clock s ≤ t.next clock s := Nat.le_max_right ..
  have hdue : (t.tick (t.next clock s)).due ≤ t.next clock s + t.interval :=
    Ticker.due_tick_le (Nat.le_max_left ..)
  rw [h.interval_eq] at hdue
  generalize t.next clock s = now at hnow hdue ⊢
  have hclock := clock_fire h.instant hnow
  have htable := table_fire hnow
  refine ⟨h.interval_eq, ?_, ?_, ?_, ?_, ?_, ?_⟩
  · exact (Outside.configureTime_noteAll _).trans h.instant
  · exact htable ▸ h.sound.prune now
  · exact hclock.symm ▸ hdue
  · intro k b hb
    rw [noteTick, htable] at hb
    simpa [noteTick, Happening.confirms] using h.known k b (Table.mem_of_prune hb)
  · intro k b hb httl
    rw [noteTick, htable, Table.entry_prune] at hb
    obtain ⟨-, hfresh⟩ := List.mem_filter.1 hb
    -- a server that is left was not over its time, and at most one interval comes on top of it
    have hage : now - b.confirmed ≤ b.server.ttl.toNat * 1000 := by
      simpa [Tracked.stale, httl] using hfresh
    omega
  · refine h.pruned_concat fun _ k b hb hgone => ?_
    have hstale : b.stale now = true := by
      rw [htable] at hgone
      exact (h.sound.server?_prune_eq_none_iff hb).1 hgone
    obtain ⟨httl, hage⟩ : b.server.ttl ≠ 0 ∧ b.server.ttl.toNat * 1000 < now - b.confirmed := by
      simpa [Tracked.stale] using hstale
    exact ⟨httl, b.confirmed, h.known k b hb, Nat.add_lt_of_lt_sub' hage⟩

/-- An event that is not held confirms the server that it puts in force, and no other. -/
theorem event (h : Timely first interval t s past) (e : Event) :
    Timely first interval t (s.event e)
      (past ++ [⟨clock s, some e, s.reconciler, (s.event e).reconciler⟩]) := by
  have hclock : clock (s.event e) = clock s := Outside.now_noteAll h.instant _
  have hsoon : t.due ≤ clock (s.event e) + interval := hclock.symm ▸ h.soon
  have hinstant : (s.event e).outside.configureTime = 0 :=
    (Outside.configureTime_noteAll _).trans h.instant
  have hpruned := h.pruned_concat
    (x := ⟨clock s, some e, s.reconciler, (s.event e).reconciler⟩) nofun
  have htable := table_event (s := s) e
  by_cases hsyncing : s.reconciler.syncing = true
  · -- the event is held, and the table stays as it was
    rw [if_pos hsyncing] at htable
    refine ⟨h.interval_eq, hinstant, htable ▸ h.sound, hsoon, ?_, htable ▸ h.inTime, hpruned⟩
    intro k b hb
    rw [htable] at hb
    simpa [Happening.confirms, hsyncing] using h.known k b hb
  · rw [if_neg hsyncing] at htable
    have hmem : ∀ k, ∀ b ∈ (s.event e).reconciler.table.entry k,
        if e.confirms (s.event e).reconciler.table k b.server.endpoint
          then b.confirmed = clock s else b ∈ s.reconciler.table.entry k := by
      rw [htable]
      exact fun k b => h.sound.confirmed_or_mem_of_apply
    refine ⟨h.interval_eq, hinstant, ?_, hsoon, fun k b hb => ?_, fun k b hb httl => ?_, hpruned⟩
    · exact htable ▸ (h.sound.honest_apply e _).sound
    · have hb' := hmem k b hb
      simp only [lastConfirmed_concat, Happening.confirms, hsyncing, Option.any_some]
      split at hb'
      · rename_i hconfirms
        simp [hconfirms, hb']
      · rename_i hother
        simpa [hother] using h.known k b hb'
    · have hb' := hmem k b hb
      split at hb'
      · -- its whole time is still to come, and the next tick is not further than an interval
        have hdue := h.soon
        omega
      · exact h.inTime k b hb' httl

end Timely

/-- Between the steps of a run nothing is due. -/
structure Punctual (first : Table) (interval : Nat) (p : Pruner) (past : List Happening) :
    Prop where
  running : p.running = true
  timely : Timely first interval p.ticker p.stage past
  early : clock p.stage < p.ticker.due

variable {initial : Table} {interval : Nat} {first p : Pruner} {past : List Happening}

theorem Timely.punctual_tickTo (h : Timely initial interval p.ticker p.stage past)
    (hrunning : p.running = true) {target : Nat} (htarget : clock p.stage ≤ target) :
    Punctual initial interval (p.tickTo target) (p.ticked target past) ∧
      clock (p.tickTo target).stage = target := by
  have hnote : ∀ (t : Ticker) (x : Stage × List Happening),
      Timely initial interval t x.1 x.2 ∧ clock x.1 ≤ target →
      t.next (clock ∘ Prod.fst) x ≤ target →
      Timely initial interval (t.tick (t.next (clock ∘ Prod.fst) x))
        (noteTick (t.next (clock ∘ Prod.fst) x) x).1
        (noteTick (t.next (clock ∘ Prod.fst) x) x).2 ∧
      clock (noteTick (t.next (clock ∘ Prod.fst) x) x).1 ≤ target := by
    intro t x hx hnext
    have hclock := clock_fire hx.1.instant (Nat.le_max_right t.due (clock x.1))
    exact ⟨hx.1.tick, Nat.le_trans (Nat.le_of_eq hclock) hnext⟩
  obtain ⟨⟨htimely, hclock⟩, hnext⟩ :=
    Ticker.runUntil_keeps hnote p.ticker (p.stage, past) ⟨h, htarget⟩
  -- the pruner itself takes no notes
  have hfire : ∀ now (x : Stage × List Happening), (noteTick now x).1 = fire now x.1 :=
    fun _ _ => rfl
  have hmap := Ticker.runUntil_map clock Prod.fst hfire target p.ticker (p.stage, past)
  simp only [tickTo, ticked, hrunning, if_true, hmap]
  generalize p.ticker.runUntil (clock ∘ Prod.fst) noteTick target (p.stage, past) = last at *
  have hend : clock (clockTo target last.2.1) = target := Nat.max_eq_left hclock
  have hdue : target < last.1.due := by
    simp only [Ticker.next, Function.comp_apply] at hnext
    omega
  exact ⟨⟨rfl, htimely.later target, hend.symm ▸ hdue⟩, hend⟩

/-- An event finds nothing due, and as the proxy takes no time, nothing falls due meanwhile. -/
theorem Punctual.event (h : Punctual initial interval p past) (e : Event) :
    Punctual initial interval (p.event e) (p.took e past) := by
  obtain ⟨hq, hclock⟩ := h.timely.punctual_tickTo h.running (Nat.le_refl _)
  have htimely := hq.timely.event e
  have hstage : clock ((p.tickTo (clock p.stage)).stage.event e) =
      clock (p.tickTo (clock p.stage)).stage := Outside.now_noteAll hq.timely.instant _
  have hearly := hstage ▸ hq.early
  simp only [Pruner.event, took, hq.running, Nat.not_le.2 hearly, decide_false, Bool.and_false,
    Bool.false_eq_true, if_false]
  exact ⟨rfl, htimely, hearly⟩

theorem Run.punctual (h : Run first p past) (hfirst : Punctual initial interval first []) :
    Punctual initial interval p past := by
  induction h with
  | start => exact hfirst
  | wait _ time ih => exact (ih.timely.punctual_tickTo ih.running (Nat.le_add_right _ time)).1
  | @jump p past _ time ih =>
    have hahead : Timely initial interval (p.ahead time).ticker (p.ahead time).stage past :=
      ih.timely.later _
    have hclock : clock (p.ahead time).stage = clock p.stage + time :=
      Nat.max_eq_left (Nat.le_add_right ..)
    exact (hahead.punctual_tickTo ih.running (Nat.le_of_eq hclock)).1
  | event _ e ih => exact ih.event e
  | proxy _ fails ih =>
    obtain ⟨hrunning, htimely, hearly⟩ := ih
    exact ⟨hrunning, ⟨htimely.interval_eq, htimely.instant, htimely.sound, htimely.soon,
      htimely.known, htimely.inTime, htimely.pruned⟩, hearly⟩

theorem punctual_startOn (hinterval : 0 < interval) {stage : Stage}
    (hfree : stage.outside.configureTime = 0) (hsound : stage.reconciler.table.Sound)
    (hconfirmed : ∀ k, ∀ b ∈ stage.reconciler.table.entry k, clock stage ≤ b.confirmed) :
    Punctual stage.reconciler.table interval (startOn interval hinterval stage) [] := by
  refine ⟨rfl, ⟨rfl, hfree, hsound, Nat.le_refl _, ?_, ?_, ?_⟩, Nat.lt_add_of_pos_right hinterval⟩
  · exact fun k b hb => hsound.confirmed?_of_mem hb
  · intro k b hb httl
    have hb' := hconfirmed k b hb
    simp only [startOn]
    omega
  · intro earlier x hx
    simp at hx

/-- As long as a pruner runs, no server stands an interval longer than its last confirmation holds,
and none is taken away by a prune before its confirmation ran out. -/
theorem Run.staleness_bounded (hinterval : 0 < interval) {stage : Stage}
    (hfree : stage.outside.configureTime = 0) (hsound : stage.reconciler.table.Sound)
    (hconfirmed : ∀ k, ∀ b ∈ stage.reconciler.table.entry k, clock stage ≤ b.confirmed)
    (h : Run (startOn interval hinterval stage) p past) :
    (∀ k, ∀ b ∈ p.stage.reconciler.table.entry k, b.server.ttl ≠ 0 →
      ∃ last, lastConfirmed stage.reconciler.table past k b.server.endpoint = some last ∧
        clock p.stage < last + b.server.ttl.toNat * 1000 + interval) ∧
    ∀ earlier x, earlier ++ [x] <+: past → x.event = none →
      x.Overdue stage.reconciler.table earlier := by
  have hpunctual := h.punctual (punctual_startOn hinterval hfree hsound hconfirmed)
  refine ⟨fun k b hb httl => ⟨b.confirmed, hpunctual.timely.known k b hb, ?_⟩,
    hpunctual.timely.pruned⟩
  exact Nat.lt_of_lt_of_le hpunctual.early (hpunctual.timely.inTime k b hb httl)

/-- A server whose time is as long as the interval stands until the second prune. -/
theorem server_stands_for_two_intervals :
    ∃ (p : Pruner) (past later : List Happening) (b : Tracked),
      Run (start 1000 (by decide)) p past ∧
      Run (start 1000 (by decide)) (p.wait 1) later ∧
      p.stage.reconciler.table.entry ⟨1024, ""⟩ = [b] ∧ clock p.stage = 1999 ∧
      (∃ last, lastConfirmed .empty past ⟨1024, ""⟩ b.server.endpoint = some last ∧
        clock p.stage < last + b.server.ttl.toNat * 1000 + 1000) ∧
      (p.wait 1).stage.reconciler.table.entry ⟨1024, ""⟩ = [] ∧
      ∀ earlier x, earlier ++ [x] <+: later → x.event = none → x.Overdue .empty earlier := by
  let e : Event := ⟨.upsert, { Mapping.bare 1024 "10.0.0.1" 8080 ⟨"a", 1⟩ with ttl := some 1 }⟩
  let b : Tracked := ⟨⟨"10.0.0.1", 8080, 0, "", ⟨"a", 1⟩, 1⟩, 0⟩
  have hrun := (@Run.start (start 1000 (by decide))).event e |>.wait 1999
  have hbounded := fun p past (h : Run (start 1000 (by decide)) p past) =>
    @Run.staleness_bounded 1000 p past (by decide) {} rfl Table.sound_empty
      (fun k b hb => by cases hb) (start_eq 1000 _ ▸ h)
  refine ⟨_, _, _, b, hrun, hrun.wait 1, by decide +kernel, by decide +kernel, ?_,
    by decide +kernel, (hbounded _ _ (hrun.wait 1)).2⟩
  exact (hbounded _ _ hrun).1 ⟨1024, ""⟩ b (by decide +kernel) (by decide)

end Pruner
end RouteSync.Watch
