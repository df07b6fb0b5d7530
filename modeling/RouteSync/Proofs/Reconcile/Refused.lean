import RouteSync.Proofs.Reservation.Replacement
import RouteSync.Proofs.Table.InPlace

/-! A replacement of routes that is refused for a key without a port: what comes before that key is
in the table by then, and nothing of it is handed over. -/
namespace RouteSync

theorem Key.valid_iff {k : Key} : k.valid = true ↔ k.port ≠ 0 := by simp [valid]

/-- The entry of a key once the lists that some routes name for it have been set, one after another.
-/
def Entry.reset (now : Nat) (k : Key) (routes : List (Key × List Server)) (e : Entry) : Entry :=
  (routes.filter (·.1 = k)).foldl (fun e route => (ofServers route.2 now).orderedLike e) e

namespace Table

/-- Sound tables are the same as soon as they hold the same under each key. -/
theorem Sound.eq_iff {t u : Table} (ht : t.Sound) (hu : u.Sound) :
    t = u ↔ ∀ k, t.entry k = u.entry k := by
  constructor
  · rintro rfl k
    rfl
  · intro h
    refine ext_get? fun k => ?_
    rw [ht.get?_eq, hu.get?_eq, h k]

end Table

namespace Reconciler

variable {c : Change} {now : Nat} {routes early later : List (Key × List Server)}

theorem entry_setAll_of_valid (h : ∀ route ∈ routes, route.1.valid = true) (k : Key) :
    (setAll now c routes).1.table.entry k = Entry.reset now k routes (c.table.entry k) := by
  induction routes generalizing c with
  | nil => rfl
  | cons route routes ih =>
    obtain ⟨hroute, hroutes⟩ := List.forall_mem_cons.1 h
    have hset : c.table.set route.1 (Entry.ofServers route.2 now) = .ok _ :=
      Table.set_eq_ok_iff.2 ⟨hroute, rfl⟩
    rw [setAll, hset]
    dsimp only
    rw [ih hroutes, Table.entry_store]
    by_cases hk : k = route.1
    · subst hk
      simp [Entry.reset]
    · simp [Entry.reset, hk, Ne.symm hk]

/-- Everything before the first key without a port is set, and nothing from there on. -/
theorem setAll_refused (h : ∀ route ∈ early, route.1.valid = true) {k : Key}
    (hk : k.valid = false) (servers : List Server) (later : List (Key × List Server)) :
    setAll now c (early ++ (k, servers) :: later) = ((setAll now c early).1, some ⟨k⟩) := by
  induction early generalizing c with
  | nil =>
    have hset : c.table.set k (Entry.ofServers servers now) = .error ⟨k⟩ := by
      simp [Table.set, Table.checked, hk]
    simp only [List.nil_append, setAll, hset]
  | cons route early ih =>
    obtain ⟨hroute, hearly⟩ := List.forall_mem_cons.1 h
    have hset : c.table.set route.1 (Entry.ofServers route.2 now) = .ok _ :=
      Table.set_eq_ok_iff.2 ⟨hroute, rfl⟩
    rw [List.cons_append, setAll, setAll, hset]
    exact ih hearly

theorem update_refused (r : Reconciler) (h : ∀ route ∈ early, route.1.valid = true) {k : Key}
    (hk : k.valid = false) (servers : List Server) (later : List (Key × List Server)) (now : Nat)
    (outcome : Outcome) :
    (r.update (early ++ (k, servers) :: later) now outcome).answer = .error (.invalid ⟨k⟩) ∧
      configured (r.update (early ++ (k, servers) :: later) now outcome).acts = [] ∧
      (r.update (early ++ (k, servers) :: later) now outcome).after.table =
        (setAll now (r.table.unchanged []) early).1.table := by
  have hrefused : setAll now (r.table.unchanged []) (early ++ (k, servers) :: later) = _ :=
    setAll_refused h hk servers later
  unfold update
  rw [hrefused]
  exact ⟨rfl, configured_logs _, rfl⟩

/-- A replacement is refused for its keys alone, whatever the proxy might say. -/
theorem answer_invalid_iff (r : Reconciler) (routes : List (Key × List Server)) (now : Nat)
    (outcome : Outcome) :
    (∃ why, (r.update routes now outcome).answer = .error (.invalid why)) ↔
      ∃ route ∈ routes, route.1.valid = false := by
  cases hfind : routes.find? fun route => !route.1.valid with
  | none =>
    have hvalid : ∀ route ∈ routes, route.1.valid = true := by
      intro route hroute
      have hgood := List.find?_eq_none.1 hfind route hroute
      simpa using hgood
    constructor
    · rintro ⟨why, hanswer⟩
      rcases update_cases r hvalid now outcome with ⟨h, -⟩ | ⟨h, -⟩ | ⟨what, h, -⟩ <;>
        · rw [h] at hanswer
          cases hanswer
    · rintro ⟨route, hroute, hbad⟩
      rw [hvalid route hroute] at hbad
      cases hbad
  | some route =>
    obtain ⟨k, servers⟩ := route
    obtain ⟨hbad, early, later, rfl, hearly⟩ := List.find?_eq_some_iff_append.1 hfind
    have hk : k.valid = false := by simpa using hbad
    have hvalid : ∀ route ∈ early, route.1.valid = true := fun route hroute => by
      simpa using hearly route hroute
    have hanswer := (update_refused r hvalid hk servers later now outcome).1
    exact ⟨fun _ => ⟨(k, servers), by simp, hk⟩, fun _ => ⟨⟨k⟩, hanswer⟩⟩

end Reconciler

namespace Session

variable {g : Session} {arrived : List Event} {deeds : List Deed}

theorem History.sound (h : History g arrived deeds) : g.reconciler.table.Sound := by
  rw [h.accounts.table]
  exact sound_performed Table.sound_empty deeds

/-- A replacement is refused just when one of its keys has no port. Nothing is handed over then, and
the table is as it was just when what comes before the first such key puts back, under every key,
what it held. -/
theorem History.refused_update_iff (h : History g arrived deeds) (routes : List (Key × List Server))
    (now : Nat) (outcome : Outcome) {updated : Reconciler.Update}
    (hupdated : g.reconciler.update routes now outcome = updated) :
    ((∃ why, updated.answer = .error (.invalid why)) ↔ ∃ route ∈ routes, route.1.port = 0) ∧
    ∀ early k servers later, routes = early ++ (k, servers) :: later →
      (∀ route ∈ early, route.1.port ≠ 0) → k.port = 0 →
      updated.answer = .error (.invalid ⟨k⟩) ∧ configured updated.acts = [] ∧
      (updated.after.table = g.reconciler.table ↔
        ∀ k', Entry.reset now k' early (g.reconciler.table.entry k') =
          g.reconciler.table.entry k') ∧
      (updated.after.table.snapshot = g.reconciler.table.snapshot ↔
        ∀ k', (Entry.reset now k' early (g.reconciler.table.entry k')).servers =
          (g.reconciler.table.entry k').servers) := by
  subst hupdated
  constructor
  · rw [Reconciler.answer_invalid_iff]
    simp [Key.valid]
  · rintro early k servers later rfl hearly hport
    have hk : k.valid = false := by simpa [Key.valid] using hport
    have hvalid : ∀ route ∈ early, route.1.valid = true := fun route hroute =>
      Key.valid_iff.2 (hearly route hroute)
    obtain ⟨hanswer, hacts, htable⟩ :=
      g.reconciler.update_refused hvalid hk servers later now outcome
    have hsound := h.sound
    have hleft : ((Reconciler.setAll now (g.reconciler.table.unchanged []) early).1.table).Sound :=
      (Reconciler.honest_setAll (Table.honest_unchanged hsound []) now early).sound
    have hentry (k' : Key) :
        (Reconciler.setAll now (g.reconciler.table.unchanged []) early).1.table.entry k' =
          Entry.reset now k' early (g.reconciler.table.entry k') :=
      Reconciler.entry_setAll_of_valid hvalid k'
    refine ⟨hanswer, hacts, ?_, ?_⟩
    · simp only [htable, hleft.eq_iff hsound, hentry]
    · simp only [htable, hleft.snapshot_eq_iff hsound, hentry]

/-- A route as it was confirmed in the same instant, before one that cannot be set. -/
theorem refusal_keeps_same_route :
    ∃ g arrived deeds, History g arrived deeds ∧
      ∃ updated, g.reconciler.update
          [(⟨1024, ""⟩, [⟨"10.0.0.1", 8080, 0, "", ⟨"a", 1⟩, 0⟩]), (⟨0, ""⟩, [])] 0 (.ok ()) =
            updated ∧
        updated.answer = .error (.invalid ⟨⟨0, ""⟩⟩) ∧ configured updated.acts = [] ∧
        updated.after.table = g.reconciler.table := by
  have h := History.start.event ⟨.upsert, .bare 1024 "10.0.0.1" 8080 ⟨"a", 1⟩⟩ 0 (.ok ())
  obtain ⟨-, hrefused⟩ := h.refused_update_iff
    [(⟨1024, ""⟩, [⟨"10.0.0.1", 8080, 0, "", ⟨"a", 1⟩, 0⟩]), (⟨0, ""⟩, [])] 0 (.ok ()) rfl
  have hearly : ∀ route ∈ [((⟨1024, ""⟩ : Key),
      [(⟨"10.0.0.1", 8080, 0, "", ⟨"a", 1⟩, 0⟩ : Server)])], route.1.port ≠ 0 := by decide
  obtain ⟨hanswer, hacts, htable, -⟩ := hrefused [_] ⟨0, ""⟩ [] [] rfl hearly rfl
  refine ⟨_, _, _, h, _, rfl, hanswer, hacts, htable.2 fun k => ?_⟩
  by_cases hk : k = ⟨1024, ""⟩
  · subst hk
    decide +kernel
  · have hother : (⟨1024, ""⟩ : Key) ≠ k := Ne.symm hk
    simp [Entry.reset, hother]

/-- A route that is new, before one that cannot be set: it is in the table, and the proxy is not
told. -/
theorem refusal_leaves_new_route :
    ∃ g arrived deeds, History g arrived deeds ∧
      ∃ updated, g.reconciler.update
          [(⟨1024, ""⟩, [.plain "10.0.0.1" 8080]), (⟨0, ""⟩, [.plain "10.0.0.2" 8080])] 0 (.ok ()) =
            updated ∧
        updated.answer = .error (.invalid ⟨⟨0, ""⟩⟩) ∧ configured updated.acts = [] ∧
        updated.after.table ≠ g.reconciler.table ∧
        updated.after.table.snapshot ≠ g.reconciler.table.snapshot := by
  have hsnapshot : ((Reconciler.initial.update
      [(⟨1024, ""⟩, [.plain "10.0.0.1" 8080]), (⟨0, ""⟩, [.plain "10.0.0.2" 8080])] 0
        (.ok ())).after.table.snapshot ≠ Reconciler.initial.table.snapshot) := by decide +kernel
  exact ⟨_, _, _, .start, _, rfl, rfl, rfl, fun htable => hsnapshot (congrArg _ htable), hsnapshot⟩

end Session
end RouteSync
