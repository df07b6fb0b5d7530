import RouteSync.Proofs.Table.InPlace

/-! What a prune keeps, and that prunes one after the other come to the one at their latest time. A
prune may be done in one pass over the keys and their servers, with a flag that each stale one
raises. -/
namespace RouteSync

/-- A confirmation has not run out: it holds for ever, or is not older than it may be. -/
theorem Tracked.stale_eq_false_iff {b : Tracked} {now : Nat} :
    b.stale now = false ↔
      b.server.ttl = 0 ∨ now - b.confirmed ≤ b.server.ttl.toNat * 1000 := by
  simp [stale, ← or_iff_not_imp_left]

/-- What ran out at one time has run out at every later one. -/
theorem Tracked.stale_max (b : Tracked) (first second : Nat) :
    b.stale (max first second) = (b.stale first || b.stale second) := by
  have hage (bound : Nat) : bound < max first second - b.confirmed ↔
      bound < first - b.confirmed ∨ bound < second - b.confirmed := by omega
  rw [Bool.eq_iff_iff, Bool.or_eq_true]
  simp only [stale, Bool.and_eq_true, decide_eq_true_eq, hage]
  exact and_or_left

namespace Entry

theorem fresh_eq (now : Nat) (e : Entry) :
    e.fresh now =
      e.filter fun b => b.server.ttl = 0 ∨ now - b.confirmed ≤ b.server.ttl.toNat * 1000 := by
  refine List.filter_congr fun b _ => ?_
  rw [Bool.eq_iff_iff, Bool.not_eq_true', Tracked.stale_eq_false_iff, decide_eq_true_iff]

theorem fresh_fresh (first second : Nat) (e : Entry) :
    (e.fresh first).fresh second = e.fresh (max first second) := by
  unfold fresh
  rw [List.filter_filter]
  refine List.filter_congr fun b _ => ?_
  rw [Tracked.stale_max, Bool.not_or, Bool.and_comm]

/-- One pass over the servers: stale ones go, and each raises the flag. -/
def sweep (now : Nat) (raised : Bool) : Entry → Entry × Bool
  | [] => ([], raised)
  | b :: bs =>
    if b.stale now then sweep now true bs
    else
      let (left, raised) := sweep now raised bs
      (b :: left, raised)

theorem sweep_eq (now : Nat) (raised : Bool) (e : Entry) :
    e.sweep now raised = (e.fresh now, raised || e.any (·.stale now)) := by
  induction e generalizing raised with
  | nil => simp [sweep, fresh]
  | cons b bs ih => cases hb : b.stale now <;> simp [sweep, fresh, ih, hb]

end Entry

namespace Table

variable {t : Table} {k : Key} {now : Nat}

/-- One pass over the keys: one whose entry has nothing left goes with it. -/
def sweep (now : Nat) (raised : Bool) : List (Key × Entry) → List (Key × Entry) × Bool
  | [] => ([], raised)
  | (k, e) :: entries =>
    let (left, raised) := e.sweep now raised
    let (others, raised) := sweep now raised entries
    (if left.isEmpty then others else (k, left) :: others, raised)

theorem sweep_eq (now : Nat) (raised : Bool) (entries : List (Key × Entry)) :
    sweep now raised entries =
      (entries.filterMap (RouteMap.keep fun _ e =>
          if (e.fresh now).isEmpty then none else some (e.fresh now)),
        raised || entries.any fun e => e.2.any (·.stale now)) := by
  induction entries generalizing raised with
  | nil => simp [sweep]
  | cons entry entries ih =>
    obtain ⟨k, e⟩ := entry
    simp only [sweep, Entry.sweep_eq, ih, List.any_cons, Bool.or_assoc, List.filterMap_cons,
      RouteMap.keep]
    split <;> rfl

/-- The flag is up in the end exactly if something was pruned. -/
theorem sweep_routes (t : Table) (now : Nat) :
    sweep now false t.routes.entries =
      ((t.prune now).table.routes.entries, (t.prune now).changed) := by
  have hflag : (t.routes.entries.any fun e => e.2.any (·.stale now)) = (t.prune now).changed := by
    rw [Bool.eq_iff_iff, prune_changed]
    simp only [List.any_eq_true, Prod.exists, get?, RouteMap.get?_eq_some_iff]
  rw [sweep_eq, Bool.false_or, hflag]
  rfl

theorem get?_prune_eq (t : Table) (now : Nat) (k : Key) :
    (t.prune now).table.get? k =
      if (t.entry k).fresh now = [] then none else some ((t.entry k).fresh now) := by
  rw [get?_prune, entry]
  cases t.get? k <;> rfl

theorem prune_changed_iff_exists :
    (t.prune now).changed = true ↔ ∃ k, ∃ b ∈ t.entry k, b.stale now = true := by
  rw [prune_changed]
  refine exists_congr fun k => ?_
  rw [entry]
  cases t.get? k <;> simp

theorem prune_prune (t : Table) (first second : Nat) :
    ((t.prune first).table.prune second).table = (t.prune (max first second)).table := by
  refine ext_get? fun k => ?_
  rw [get?_prune_eq, entry_prune, Entry.fresh_fresh, get?_prune_eq]

theorem changed_prune_prune (t : Table) (first second : Nat) :
    ((t.prune first).changed || ((t.prune first).table.prune second).changed) =
      (t.prune (max first second)).changed := by
  rw [Bool.eq_iff_iff, Bool.or_eq_true]
  simp only [prune_changed_iff_exists, entry_prune, Entry.fresh, List.mem_filter,
    Tracked.stale_max, Bool.not_eq_true', Bool.or_eq_true]
  constructor
  · rintro (⟨k, b, hb, hfirst⟩ | ⟨k, b, ⟨hb, -⟩, hsecond⟩)
    · exact ⟨k, b, hb, .inl hfirst⟩
    · exact ⟨k, b, hb, .inr hsecond⟩
  · rintro ⟨k, b, hb, hstale⟩
    by_cases hfirst : b.stale first = true
    · exact .inl ⟨k, b, hb, hfirst⟩
    · exact .inr ⟨k, b, ⟨hb, Bool.not_eq_true _ ▸ hfirst⟩, hstale.resolve_left hfirst⟩

/-- A prune keeps just the servers whose confirmation holds, as they are and in their order, and
just the keys that keep a server. Two prunes, the later time first or last, leave and tell what one
at the later time does. -/
theorem prune_keeps_and_composes (t : Table) :
    (∀ now, sweep now false t.routes.entries =
          ((t.prune now).table.routes.entries, (t.prune now).changed) ∧
      ∀ k, (t.prune now).table.entry k = (t.entry k).filter
          (fun b => b.server.ttl = 0 ∨ now - b.confirmed ≤ b.server.ttl.toNat * 1000) ∧
        ((∃ e, (t.prune now).table.get? k = some e) ↔ ∃ b ∈ t.entry k,
          b.server.ttl = 0 ∨ now - b.confirmed ≤ b.server.ttl.toNat * 1000)) ∧
    ∀ first second,
      ((t.prune first).table.prune second).table = (t.prune (max first second)).table ∧
      ((t.prune first).changed || ((t.prune first).table.prune second).changed) =
        (t.prune (max first second)).changed := by
  refine ⟨fun now => ⟨t.sweep_routes now, fun k => ⟨?_, ?_⟩⟩, fun first second =>
    ⟨t.prune_prune first second, t.changed_prune_prune first second⟩⟩
  · rw [entry_prune, Entry.fresh_eq]
  · rw [get?_prune_eq, Entry.fresh_eq]
    split
    · rename_i hnone
      have hall := List.filter_eq_nil_iff.1 hnone
      exact ⟨nofun, fun ⟨b, hb, hholds⟩ => absurd (decide_eq_true hholds) (hall b hb)⟩
    · rename_i hne
      obtain ⟨b, hb⟩ := List.exists_mem_of_ne_nil _ hne
      obtain ⟨hb, hholds⟩ := List.mem_filter.1 hb
      exact ⟨fun _ => ⟨b, hb, of_decide_eq_true hholds⟩, fun _ => ⟨_, rfl⟩⟩

end Table
end RouteSync
