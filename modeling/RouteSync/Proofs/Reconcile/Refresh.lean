import RouteSync.Proofs.Reconcile.Moves
import RouteSync.Proofs.Table.Confirmed

/-! A server whose record is repeated outlasts all prunes of its whole time from then on. The one
exception is a repetition that is held for a sync while the confirmation before it runs out. -/
namespace RouteSync

namespace Reconciler

variable {c : Change} {routes : List (Key × List Server)} {now : Nat} {k : Key} {b : Tracked}

theorem mem_of_setAll (hb : b ∈ (setAll now c routes).1.table.entry k) :
    b ∈ c.table.entry k ∨ b.confirmed = now := by
  induction routes generalizing c with
  | nil => exact .inl hb
  | cons route routes ih =>
    unfold setAll at hb
    split at hb
    · rename_i next hc
      rcases ih hb with hb | hb
      · exact Table.mem_of_set hc hb
      · exact .inr hb
    · exact .inl hb

theorem entry_setAll_of_ne (h : ∀ r ∈ routes, r.1 ≠ k) :
    (setAll now c routes).1.table.entry k = c.table.entry k := by
  rw [Table.entry, get?_setAll_of_ne h]
  rfl

end Reconciler

namespace Deed

variable {t : Table} {d : Deed} {k : Key} {b : Tracked}

/-- A request sets the servers of the key. -/
def Replaces (k : Key) : Deed → Prop
  | .replace routes _ => ∃ r ∈ routes, r.1 = k
  | _ => False

instance (k : Key) : (d : Deed) → Decidable (d.Replaces k)
  | .replace routes _ => inferInstanceAs (Decidable (∃ r ∈ routes, r.1 = k))
  | .event .. | .listing .. | .prune _ | .note _ => .isFalse id

theorem mem_of_change (hb : b ∈ (d.change t).table.entry k) :
    b ∈ t.entry k ∨ d.time? = some b.confirmed := by
  cases d with
  | event e now => exact (Table.mem_of_apply hb).imp_right fun h => by rw [time?, h]
  | listing answer now =>
    cases answer with
    | ok ms => exact (Table.mem_of_merge hb).imp_right fun h => by rw [time?, h]
    | error what => exact .inl hb
  | prune now => exact .inl (Table.mem_of_prune hb)
  | replace routes now =>
    exact (Reconciler.mem_of_setAll hb).imp_right fun h => by rw [time?, h]
  | note record => exact .inl hb

/-- Without events, listings and requests for its key, a key can only lose servers. -/
theorem mem_of_quiet (hevent : d.event? = none) (hlisting : d.listing? = none)
    (hkey : ¬ d.Replaces k) (hb : b ∈ (d.change t).table.entry k) : b ∈ t.entry k := by
  cases d with
  | event e now => cases hevent
  | listing answer now => cases hlisting
  | prune now => exact Table.mem_of_prune hb
  | replace routes now =>
    have hne : ∀ r ∈ routes, r.1 ≠ k := fun r hr hk => hkey ⟨r, hr, hk⟩
    rw [change, Reconciler.entry_setAll_of_ne hne] at hb
    exact hb
  | note record => exact hb

end Deed

section Performed

variable {t : Table} {deeds : List Deed} {k : Key} {b : Tracked}

theorem mem_of_performed (hb : b ∈ (performed t deeds).table.entry k) :
    b ∈ t.entry k ∨ ∃ d ∈ deeds, d.time? = some b.confirmed := by
  induction deeds generalizing t with
  | nil => exact .inl hb
  | cons d deeds ih =>
    rw [performed_cons] at hb
    rcases ih hb with hb | ⟨d', hd', htime⟩
    · rcases Deed.mem_of_change hb with hb | htime
      · exact .inl hb
      · exact .inr ⟨d, List.mem_cons_self, htime⟩
    · exact .inr ⟨d', List.mem_cons_of_mem _ hd', htime⟩

theorem mem_of_performed_quiet (hquiet : ∀ d ∈ deeds, d.event? = none ∧ d.listing? = none)
    (hkey : ∀ d ∈ deeds, ¬ d.Replaces k) (hb : b ∈ (performed t deeds).table.entry k) :
    b ∈ t.entry k := by
  induction deeds generalizing t with
  | nil => exact hb
  | cons d deeds ih =>
    rw [performed_cons] at hb
    obtain ⟨hevent, hlisting⟩ := hquiet d List.mem_cons_self
    have hb' := ih (fun x hx => hquiet x (List.mem_cons_of_mem _ hx))
      (fun x hx => hkey x (List.mem_cons_of_mem _ hx)) hb
    exact Deed.mem_of_quiet hevent hlisting (hkey d List.mem_cons_self) hb'

end Performed

/-- Wherever the record stands at the key, it was confirmed at `since` or later. -/
def Table.Renewed (t : Table) (k : Key) (s : Server) (since : Nat) : Prop :=
  ∀ b ∈ t.entry k, b.server = s → since ≤ b.confirmed

theorem Table.Renewed.not_stale {t : Table} {k : Key} {s : Server} {since limit : Nat}
    (h : t.Renewed k s since) {b : Tracked} (hb : b ∈ t.entry k) (hs : b.server = s)
    (hlimit : limit ≤ since + s.ttl.toNat * 1000) : b.stale limit = false := by
  have hsince : since ≤ b.confirmed := h b hb hs
  have hage : ¬ s.ttl.toNat * 1000 < limit - b.confirmed := by omega
  simp [Tracked.stale, hs, hage]

/-- A sync that ends repeats what was held in it, and so renews it. -/
theorem Reconciler.renewed_finishDeeds {r : Reconciler} (h : r.table.Sound) {e : Event} {k : Key}
    {s : Server} (haction : e.action = .upsert) (hroute : e.mapping.route = .ok (k, s))
    (hheld : e ∈ r.held) (answer : Listing) (now : Nat) :
    (performed r.table (r.finishDeeds answer now)).table.Renewed k s now := by
  obtain ⟨before, after, hsplit⟩ := List.append_of_mem hheld
  have hdeeds : r.finishDeeds answer now =
      (.listing answer now :: (replayRecords r.held).map .note ++ before.map (.event · now)) ++
        .event e now :: after.map (.event · now) := by
    rw [finishDeeds, hsplit, List.map_append, List.map_cons, ← List.append_assoc]
  generalize (Deed.listing answer now :: (replayRecords r.held).map .note ++
    before.map (.event · now)) = earlier at hdeeds
  intro b hb hs
  rw [hdeeds, performed_table_append, performed_cons] at hb
  have hsound := sound_performed h earlier
  -- the events after this one may only confirm the record once more
  rcases mem_of_performed hb with hb | ⟨d, hd, htime⟩
  · exact Nat.le_of_eq (hsound.confirmed_apply haction hroute hb hs).symm
  · obtain ⟨e', -, rfl⟩ := List.mem_map.1 hd
    exact Nat.le_of_eq (Option.some.inj htime)

namespace Session

/-- A stretch of a run, through moves whose times do not go back, with what they do to the table. -/
inductive Stretch (g : Session) (start : Nat) : Session → Nat → List Deed → Prop
  | refl : Stretch g start g start []
  | step {g' : Session} {last : Nat} {deeds : List Deed} {now : Nat} {move : Move} {next : Step}
      (h : Stretch g start g' last deeds) (hlast : last ≤ now)
      (hs : g'.step now move = some next) :
      Stretch g start next.after now (deeds ++ move.deeds g' now)

variable {g g' : Session} {start last : Nat} {deeds : List Deed} {e : Event} {k : Key} {s : Server}

theorem Stretch.le (h : Stretch g start g' last deeds) : start ≤ last := by
  induction h with
  | refl => exact Nat.le_refl _
  | step _ hlast _ ih => exact Nat.le_trans ih hlast

theorem Stretch.sound (h : Stretch g start g' last deeds) (hg : g.reconciler.table.Sound) :
    g'.reconciler.table.Sound := by
  induction h with
  | refl => exact hg
  | step _ _ hs ih => exact (handedOver_step ih hs).sound

theorem renewed_step {now : Nat} {move : Move} {next : Step}
    (h : g.reconciler.table.Renewed k s start) (hstart : start ≤ now)
    (hs : g.step now move = some next) : next.after.reconciler.table.Renewed k s start := by
  have heffect := effect_step hs
  intro b hb hserver
  rw [heffect.table] at hb
  rcases mem_of_performed hb with hb | ⟨d, hd, htime⟩
  · exact h b hb hserver
  · rw [heffect.time_eq hd htime]
    exact hstart

/-- An event is held still: no sync has ended, and its key has at most lost servers. -/
structure Awaits (t : Table) (e : Event) (k : Key) (g : Session) (deeds : List Deed) : Prop where
  syncing : g.reconciler.syncing = true
  held : e ∈ g.reconciler.held
  listing : ∀ d ∈ deeds, d.listing? = none
  entry : (∀ d ∈ deeds, ¬ d.Replaces k) → ∀ b ∈ g.reconciler.table.entry k, b ∈ t.entry k

theorem Awaits.step {t : Table} (h : Awaits t e k g deeds) (hsound : g.reconciler.table.Sound)
    (haction : e.action = .upsert) (hroute : e.mapping.route = .ok (k, s)) {now : Nat}
    {move : Move} {next : Step} (hs : g.step now move = some next) :
    Awaits t e k next.after (deeds ++ move.deeds g now) ∨
      (next.after.reconciler.table.Renewed k s now ∧
        ∃ d ∈ deeds ++ move.deeds g now, d.listing? ≠ none) := by
  have heffect := effect_step hs
  rcases heffect.of_syncing h.syncing with ⟨hsyncing, hheld, hquiet⟩ | ⟨answer, hdeeds⟩
  · refine .inl ⟨hsyncing, hheld h.held, fun d hd => ?_, fun hkey b hb => ?_⟩
    · exact (List.mem_append.1 hd).elim (h.listing d) fun hd => (hquiet d hd).2
    · rw [heffect.table] at hb
      have hb' := mem_of_performed_quiet hquiet
        (fun d hd => hkey d (List.mem_append_right _ hd)) hb
      exact h.entry (fun d hd => hkey d (List.mem_append_left _ hd)) b hb'
  · refine .inr ⟨?_, .listing answer now, ?_, Option.some_ne_none _⟩
    · rw [heffect.table, hdeeds]
      exact Reconciler.renewed_finishDeeds hsound haction hroute h.held answer now
    · rw [hdeeds]
      exact List.mem_append_right _ List.mem_cons_self

theorem Stretch.renewed (h : Stretch g start g' last deeds)
    (hg : g.reconciler.table.Renewed k s start) : g'.reconciler.table.Renewed k s start := by
  induction h with
  | refl => exact hg
  | step h hlast hs ih => exact renewed_step ih (Nat.le_trans h.le hlast) hs

theorem Stretch.awaits_or_renewed (h : Stretch g start g' last deeds) {t : Table}
    (hg : Awaits t e k g []) (hsound : g.reconciler.table.Sound) (haction : e.action = .upsert)
    (hroute : e.mapping.route = .ok (k, s)) :
    Awaits t e k g' deeds ∨
      (g'.reconciler.table.Renewed k s start ∧ ∃ d ∈ deeds, d.listing? ≠ none) := by
  induction h with
  | refl => exact .inl hg
  | @step g' last deeds now move next h hlast hs ih =>
    have hstart : start ≤ now := Nat.le_trans h.le hlast
    -- the sync that ends the waiting may end in this step or may have ended before it
    rcases ih with hawaits | ⟨hrenewed, d, hd, hlisting⟩
    · refine (hawaits.step (h.sound hsound) haction hroute hs).imp_right ?_
      rintro ⟨hrenewed, hlisting⟩
      exact ⟨fun b hb hb' => Nat.le_trans hstart (hrenewed b hb hb'), hlisting⟩
    · exact .inr ⟨renewed_step hrenewed hstart hs, d, List.mem_append_left _ hd, hlisting⟩

/-- An event that comes during a sync is held, and the table stays as it was. -/
theorem awaits_handle (hsyncing : g.reconciler.syncing = true) (now : Nat) (outcome : Outcome) :
    Awaits g.reconciler.table e k
      { g with reconciler := (g.reconciler.handle e now outcome).after } [] := by
  rw [Reconciler.handle, if_pos hsyncing]
  refine ⟨hsyncing, ?_, ?_, fun _ b hb => hb⟩
  · exact List.mem_append_right _ List.mem_cons_self
  · intro d hd
    cases hd

theorem renewed_handle (hg : g.reconciler.table.Sound) (hfree : ¬ g.reconciler.syncing = true)
    (haction : e.action = .upsert) (hroute : e.mapping.route = .ok (k, s)) (now : Nat)
    (outcome : Outcome) :
    (g.reconciler.handle e now outcome).after.table.Renewed k s now := by
  intro b hb hs
  rw [Reconciler.handle, if_neg hfree] at hb
  exact Nat.le_of_eq (hg.confirmed_apply haction hroute hb hs).symm

/-- A server whose record comes again at `now` is removed within its time by a prune that comes before
the end of the sync for which the record was held, once the confirmation before it ran out, and by
no other. -/
theorem Reached.refreshed_pruned_iff {acts : List Act} (hg : Reached g acts) {b : Tracked}
    (hb : b ∈ g.reconciler.table.entry k) (haction : e.action = .upsert)
    (hroute : e.mapping.route = .ok (k, b.server)) {now : Nat} {outcome : Outcome}
    (hstretch : Stretch { g with reconciler := (g.reconciler.handle e now outcome).after } now
      g' last deeds)
    (hkey : ∀ d ∈ deeds, ¬ d.Replaces k)
    (hpresent : g'.reconciler.table.server? k b.server.endpoint = some b.server)
    {limit : Nat} (hlimit : limit ≤ now + b.server.ttl.toNat * 1000) (outcome' : Outcome) :
    (g'.reconciler.prune limit outcome').after.table.server? k b.server.endpoint = none ↔
      g.reconciler.syncing = true ∧ (∀ d ∈ deeds, d.listing? = none) ∧ b.stale limit = true := by
  have hsound : g.reconciler.table.Sound := hg.sound
  have hafter : (g.reconciler.handle e now outcome).after.table.Sound :=
    (hg.event e now outcome).sound
  have hsound' : g'.reconciler.table.Sound := hstretch.sound hafter
  obtain ⟨c, hc, hcs⟩ := List.mem_map.1 (Entry.mem_servers_of_server? hpresent)
  have hpruned : (g'.reconciler.prune limit outcome').after.table.server? k b.server.endpoint =
      none ↔ c.stale limit = true := by
    rw [← hcs]
    exact hsound'.server?_prune_eq_none_iff hc
  rw [hpruned]
  -- what stands at the key now is `b` itself, or was confirmed when the event came or later
  by_cases hsyncing : g.reconciler.syncing = true
  · have hawaits := awaits_handle (e := e) (k := k) hsyncing now outcome
    rcases hstretch.awaits_or_renewed hawaits hafter haction hroute with h | ⟨h, d, hd, hlisting⟩
    · have hbc : c = b :=
        (hsound.distinct_entry k).eq_of_endpoint_eq (h.entry hkey c hc) hb (by rw [hcs])
      rw [hbc]
      exact ⟨fun hstale => ⟨hsyncing, h.listing, hstale⟩, fun ⟨_, _, hstale⟩ => hstale⟩
    · have hfresh := h.not_stale hc hcs hlimit
      constructor
      · intro hstale
        rw [hfresh] at hstale
        cases hstale
      · rintro ⟨-, hnone, -⟩
        exact absurd (hnone d hd) hlisting
  · have h := hstretch.renewed (renewed_handle hsound hsyncing haction hroute now outcome)
    have hfresh := h.not_stale hc hcs hlimit
    simp [hfresh, hsyncing]

/-- The sync for which the record is held fails in time, and the server outlasts its first time. -/
theorem held_refresh_keeps_server :
    ∃ (g g' : Session) (acts : List Act) (deeds : List Deed) (e : Event) (b : Tracked),
      Reached g acts ∧ g.reconciler.syncing = true ∧
      g.reconciler.table.entry ⟨1024, ""⟩ = [b] ∧ b.stale 18000 = true ∧
      Stretch { g with reconciler := (g.reconciler.handle e 8000 (.ok ())).after } 8000 g' 9000
        deeds ∧
      (g'.reconciler.prune 18000 (.ok ())).after.table.server? ⟨1024, ""⟩ b.server.endpoint ≠
        none := by
  let e : Event := ⟨.upsert, { Mapping.bare 1024 "10.0.0.1" 8080 ⟨"a", 1⟩ with ttl := some 10 }⟩
  let b : Tracked := ⟨⟨"10.0.0.1", 8080, 0, "", ⟨"a", 1⟩, 10⟩, 0⟩
  have hadded := Reached.start.event e 0 (.ok ())
  have hcalled := @Reached.step _ _ 4000 .sync _ hadded rfl
  have hfetched := @Reached.step _ _ 5000 (.advance 0 (.token (.ok "t"))) _ hcalled rfl
  have hentered := @Reached.step _ _ 5000 (.advance 0 (.table (.ok ()))) _ hfetched rfl
  have hstart : ∀ {g acts}, Reached g acts → Stretch g 8000 g 8000 [] := fun _ => .refl
  have hheld := hstart (hentered.event e 8000 (.ok ()))
  have hanswered := @Stretch.step _ _ _ _ _ 9000 (.advance 0 (.listing (.error .transport))) _
    hheld (by decide) rfl
  have hended := @Stretch.step _ _ _ _ _ 9000 (.advance 0 (.table (.ok ()))) _ hanswered
    (by decide) rfl
  refine ⟨_, _, _, _, e, b, hentered, rfl, by decide +kernel, by decide, hended, fun hnone => ?_⟩
  have hlimit : 18000 ≤ 8000 + b.server.ttl.toNat * 1000 := by decide
  have hiff := hentered.refreshed_pruned_iff (k := ⟨1024, ""⟩) (b := b) (by decide +kernel) rfl
    (by decide +kernel) hended (by decide +kernel) (by decide +kernel) hlimit (.ok ())
  obtain ⟨-, hnolisting, -⟩ := hiff.1 hnone
  revert hnolisting
  decide +kernel

/-- The record comes again nine seconds into its ten, but it is held for a sync. -/
theorem held_refresh_loses_server :
    ∃ (g : Session) (acts : List Act) (e : Event) (b : Tracked),
      Reached g acts ∧ g.reconciler.table.entry ⟨1024, ""⟩ = [b] ∧
      e.action = .upsert ∧ e.mapping.route = .ok (⟨1024, ""⟩, b.server) ∧
      b.stale 9000 = false ∧ 11000 ≤ 9000 + b.server.ttl.toNat * 1000 ∧
      (g.reconciler.handle e 9000 (.ok ())).after.table.entry ⟨1024, ""⟩ = [b] ∧
      ((g.reconciler.handle e 9000 (.ok ())).after.prune 11000 (.ok ())).after.table.entry
        ⟨1024, ""⟩ = [] := by
  let e : Event := ⟨.upsert, { Mapping.bare 1024 "10.0.0.1" 8080 ⟨"a", 1⟩ with ttl := some 10 }⟩
  have hadded := Reached.start.event e 0 (.ok ())
  have hcalled := @Reached.step _ _ 4000 .sync _ hadded rfl
  have hfetched := @Reached.step _ _ 5000 (.advance 0 (.token (.ok "t"))) _ hcalled rfl
  have hentered := @Reached.step _ _ 5000 (.advance 0 (.table (.ok ()))) _ hfetched rfl
  refine ⟨_, _, e, ⟨⟨"10.0.0.1", 8080, 0, "", ⟨"a", 1⟩, 10⟩, 0⟩, hentered, ?_⟩
  decide +kernel

end Session
end RouteSync
