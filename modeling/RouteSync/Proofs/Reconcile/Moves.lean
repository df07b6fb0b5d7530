import RouteSync.Proofs.Reconcile.Caching

/-! What the moves of a session do to the table, as deeds. -/
namespace RouteSync

theorem performed_cons (t : Table) (d : Deed) (deeds : List Deed) :
    (performed t (d :: deeds)).table = (performed (d.change t).table deeds).table := by
  have hsplit : performed t (d :: deeds) = performed t ([d] ++ deeds) := rfl
  rw [hsplit, performed_append, performed_singleton]
  rfl

theorem performed_table_append (t : Table) (deeds more : List Deed) :
    (performed t (deeds ++ more)).table = (performed (performed t deeds).table more).table := by
  rw [performed_append]
  rfl

namespace Deed

/-- When a deed confirms what it leaves. -/
def time? : Deed → Option Nat
  | .event _ now | .listing _ now | .prune now | .replace _ now => some now
  | .note _ => none

/-- The listing, or the lack of it, that a sync ended with. -/
def listing? : Deed → Option Reconciler.Listing
  | .listing answer _ => some answer
  | _ => none

theorem sound_change {t : Table} (h : t.Sound) (d : Deed) : (d.change t).table.Sound := by
  cases d with
  | event e now => exact (h.honest_apply e now).sound
  | listing answer now =>
    exact (Reconciler.honest_mergeListing (r := ⟨t, false, []⟩) h answer now).sound
  | prune now => exact h.prune now
  | replace routes now =>
    exact (Reconciler.honest_setAll (Table.honest_unchanged h []) now routes).sound
  | note record => exact h

end Deed

theorem sound_performed {t : Table} (h : t.Sound) (deeds : List Deed) :
    (performed t deeds).table.Sound := by
  induction deeds generalizing t with
  | nil => exact h
  | cons d deeds ih =>
    rw [performed_cons]
    exact ih (d.sound_change h)

namespace Reservation

/-- The routes that a request asks for, unless it is refused. -/
def asked? (ports : Ports) (q : Http.Request) : Option (List (Key × List Server)) :=
  if q.path = path ∧ q.method = "POST" then (requested q >>= routes ports).toOption else none

/-- The ways in which a request is served. -/
inductive Serves (ports : Ports) (r : Reconciler) (q : Http.Request) (now : Nat)
    (outcome : Outcome) : Served → Prop
  | refused {acts : List Act} {response : Http.Response} (hasked : asked? ports q = none)
      (hacts : configured acts = []) (hstatus : response.status ≠ 200) :
      Serves ports r q now outcome ⟨r, acts, response⟩
  | applied {routes : List (Key × List Server)} (hasked : asked? ports q = some routes) :
      Serves ports r q now outcome (apply r routes now outcome)

theorem serves (ports : Ports) (r : Reconciler) (q : Http.Request) (now : Nat)
    (outcome : Outcome) : Serves ports r q now outcome (serve ports r q now outcome) := by
  unfold serve
  split
  · rename_i hpath
    exact .refused (if_neg fun h => hpath h.1) rfl (by decide)
  split
  · rename_i hmethod
    exact .refused (if_neg fun h => hmethod h.2) rfl (by decide)
  rename_i hpath hmethod
  have hasked : asked? ports q = (requested q >>= routes ports).toOption :=
    if_pos ⟨not_not.1 hpath, not_not.1 hmethod⟩
  split
  · rename_i why hwhy
    exact .refused (by rw [hasked, hwhy]; rfl) rfl (by simp)
  · rename_i rs hrs
    exact .applied (by rw [hasked, hrs]; rfl)

theorem after_apply (r : Reconciler) (rs : List (Key × List Server)) (now : Nat)
    (outcome : Outcome) : (apply r rs now outcome).after = (r.update rs now outcome).after := by
  unfold apply
  dsimp only
  split <;> rfl

end Reservation

namespace Session

/-- What a move does to the table. -/
def Move.deeds (g : Session) (now : Nat) : Move → List Deed
  | .event e _ => g.reconciler.handleDeeds e now
  | .prune _ => [.prune now]
  | .serve ports q _ => ((Reservation.asked? ports q).map fun rs => [.replace rs now]).getD []
  | .sync => []
  | .advance index input =>
    (g.syncs[index]?.map fun call => call.deeds g.reconciler now input).getD []

/-- The ways in which a move treats the reconciler, with what it does to the table. -/
inductive Effect (r : Reconciler) (now : Nat) : Reconciler → List Deed → Prop
  | idle : Effect r now r []
  | enters (hfree : r.syncing = false) : Effect r now { r with syncing := true } []
  | holds (hsyncing : r.syncing = true) (e : Event) :
      Effect r now { r with held := r.held ++ [e] } [.note (Reconciler.heldRecord e)]
  | changes {d : Deed} (htime : d.time? = some now) (hlisting : d.listing? = none)
      (hevent : r.syncing = true → d.event? = none) :
      Effect r now { r with table := (d.change r.table).table } [d]
  | ends (answer : Reconciler.Listing) :
      Effect r now ⟨(performed r.table (r.finishDeeds answer now)).table, false, []⟩
        (r.finishDeeds answer now)

theorem effect_event (r : Reconciler) (e : Event) (now : Nat) (outcome : Outcome) :
    Effect r now (r.handle e now outcome).after (r.handleDeeds e now) := by
  unfold Reconciler.handle Reconciler.handleDeeds
  split
  · rename_i hsyncing
    exact .holds hsyncing e
  · rename_i hfree
    exact .changes (d := .event e now) rfl rfl fun hsyncing => absurd hsyncing hfree

theorem effect_update (r : Reconciler) (rs : List (Key × List Server)) (now : Nat)
    (outcome : Outcome) :
    Effect r now (r.update rs now outcome).after [.replace rs now] := by
  rw [Reconciler.after_update, performed_singleton]
  exact .changes (d := .replace rs now) rfl rfl fun _ => rfl

theorem effect_advance {call : SyncCall} {r : Reconciler} {now : Nat} {input : Watch.SyncInput}
    {next : Reconciler × SyncStep} (hn : call.advance r now input = some next) :
    Effect r now next.1 (call.deeds r now input) := by
  have hmoves := SyncCall.moves_of_advance hn
  generalize next.1 = r', next.2 = sync at hmoves
  cases hmoves with
  | waits _ hdeeds =>
    rw [hdeeds]
    exact .idle
  | enters _ hfree _ hdeeds =>
    rw [hdeeds]
    exact .enters hfree
  | @ends answer outcome _ hdeeds =>
    rw [hdeeds, Reconciler.finishSync_eq, ← Reconciler.performed_finishDeeds]
    exact .ends answer

variable {g : Session} {now : Nat} {move : Move} {next : Step}

theorem effect_step (hs : g.step now move = some next) :
    Effect g.reconciler now next.after.reconciler (move.deeds g now) := by
  cases move with
  | event e outcome =>
    obtain rfl := Option.some.inj hs
    exact effect_event g.reconciler e now outcome
  | prune outcome =>
    obtain rfl := Option.some.inj hs
    exact .changes (d := .prune now) rfl rfl fun _ => rfl
  | serve ports q outcome =>
    obtain rfl := Option.some.inj hs
    have hserves := Reservation.serves ports g.reconciler q now outcome
    dsimp only [Move.deeds]
    generalize Reservation.serve ports g.reconciler q now outcome = served at hserves
    cases hserves with
    | refused hasked =>
      rw [hasked]
      exact .idle
    | applied hasked =>
      rw [hasked, Reservation.after_apply]
      exact effect_update g.reconciler _ now outcome
  | sync =>
    obtain rfl := Option.some.inj hs
    exact .idle
  | advance index input =>
    obtain ⟨call, hcall, hs⟩ := Option.bind_eq_some_iff.1 hs
    obtain ⟨⟨r, sync⟩, hadvance, hs⟩ := Option.bind_eq_some_iff.1 hs
    obtain rfl := Option.some.inj hs
    rw [Move.deeds, hcall]
    exact effect_advance hadvance

namespace Effect

variable {r r' : Reconciler} {deeds : List Deed}

theorem table (h : Effect r now r' deeds) : r'.table = (performed r.table deeds).table := by
  cases h with
  | idle => rfl
  | enters => rfl
  | holds => rfl
  | changes => rw [performed_singleton]
  | ends => rfl

/-- All that a move does to the table, it does at its own time. -/
theorem time_eq (h : Effect r now r' deeds) {d : Deed} (hd : d ∈ deeds) {n : Nat}
    (hn : d.time? = some n) : n = now := by
  cases h with
  | idle => cases hd
  | enters => cases hd
  | holds hsyncing e =>
    rw [List.mem_singleton.1 hd] at hn
    cases hn
  | changes htime =>
    rw [List.mem_singleton.1 hd, htime] at hn
    exact (Option.some.inj hn).symm
  | ends answer =>
    rcases List.mem_append.1 hd with hd | hd
    · rcases List.mem_cons.1 hd with rfl | hd
      · exact (Option.some.inj hn).symm
      · obtain ⟨record, -, rfl⟩ := List.mem_map.1 hd
        cases hn
    · obtain ⟨e, -, rfl⟩ := List.mem_map.1 hd
      exact (Option.some.inj hn).symm

/-- While a listing is on its way no event is put into effect, and those that are held stay so. -/
theorem of_syncing (h : Effect r now r' deeds) (hsyncing : r.syncing = true) :
    (r'.syncing = true ∧ r.held ⊆ r'.held ∧
        ∀ d ∈ deeds, d.event? = none ∧ d.listing? = none) ∨
      ∃ answer, deeds = r.finishDeeds answer now := by
  cases h with
  | idle => exact .inl ⟨hsyncing, List.Subset.refl _, fun d hd => by cases hd⟩
  | enters hfree =>
    rw [hsyncing] at hfree
    cases hfree
  | holds _ e =>
    refine .inl ⟨hsyncing, List.subset_append_left _ _, fun d hd => ?_⟩
    rw [List.mem_singleton.1 hd]
    exact ⟨rfl, rfl⟩
  | changes _ hlisting hevent =>
    refine .inl ⟨hsyncing, List.Subset.refl _, fun d hd => ?_⟩
    rw [List.mem_singleton.1 hd]
    exact ⟨hevent hsyncing, hlisting⟩
  | ends answer => exact .inr ⟨answer, rfl⟩

end Effect

end Session
end RouteSync
