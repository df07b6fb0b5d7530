import Mathlib.Tactic.ByContra
import RouteSync.Proofs.Table.Sound
import RouteSync.Table.Follow

/-! A change tells exactly whether what is served changed with it. -/
namespace RouteSync.Table

theorem get?_snapshot (t : Table) (k : Key) :
    t.snapshot.get? k = (t.get? k).map Entry.servers := RouteMap.get?_map _ _ _

theorem entry_servers (t : Table) (k : Key) :
    (t.entry k).servers = (t.snapshot.get? k).getD [] := by
  rw [get?_snapshot, entry]
  cases t.get? k <;> rfl

theorem servers_eq_nil_iff {e : Entry} : e.servers = [] ↔ e = [] := List.map_eq_nil_iff

/-- Sound tables serve the same as soon as they serve the same under each key. -/
theorem Sound.snapshot_eq_iff {t u : Table} (ht : t.Sound) (hu : u.Sound) :
    t.snapshot = u.snapshot ↔ ∀ k, (t.entry k).servers = (u.entry k).servers := by
  constructor
  · intro h k
    rw [entry_servers, entry_servers, h]
  · intro h
    refine RouteMap.ext_get? fun k => ?_
    have hnil : t.entry k = [] ↔ u.entry k = [] := by
      rw [← servers_eq_nil_iff, h k, servers_eq_nil_iff]
    rw [get?_snapshot, get?_snapshot, ht.get?_eq, hu.get?_eq]
    by_cases hk : t.entry k = []
    · rw [if_pos hk, if_pos (hnil.1 hk)]
    · rw [if_neg hk, if_neg (mt hnil.2 hk), Option.map_some, Option.map_some, h k]

/-- A change of a table says whether its snapshot is another one now. -/
def Exact (before : Table) (c : Change) : Prop :=
  c.changed = true ↔ c.table.snapshot ≠ before.snapshot

variable {t : Table} {c : Change} {k : Key}

theorem Sound.exact_store (h : t.Sound) (hk : k.valid = true) {e : Entry} (he : e.Distinct)
    {changed : Bool} (hc : changed = true ↔ e.servers ≠ (t.entry k).servers)
    (log : List Log.Record) : t.Exact ⟨t.store k e, changed, log⟩ := by
  rw [Exact, hc, ne_eq, ne_eq, (h.store hk he).snapshot_eq_iff h]
  refine not_congr ⟨fun heq k' => ?_, fun hall => ?_⟩
  · rw [entry_store]
    split
    · rename_i hkk
      rw [hkk, heq]
    · rfl
  · simpa [entry_store] using hall k

theorem Sound.exact_set (h : t.Sound) {e : Entry} (he : e.Distinct) (hc : t.set k e = .ok c) :
    t.Exact c := by
  obtain ⟨hk, rfl⟩ := set_eq_ok_iff.1 hc
  exact h.exact_store hk (he.orderedLike (h.distinct_entry k)) (by simp) []

theorem Sound.exact_upsert (h : t.Sound) {s : Server} {now : Nat}
    (hc : t.upsert k s now = .ok c) : t.Exact c := by
  obtain ⟨hk, rfl⟩ := upsert_eq_ok_iff.1 hc
  exact h.exact_store hk ((h.distinct_entry k).upsert now s) (Entry.upsert_changed now s _) _

theorem Sound.exact_delete (h : t.Sound) {s : Server} (hc : t.delete k s = .ok c) :
    t.Exact c := by
  obtain ⟨hk, rfl⟩ := delete_eq_ok_iff.1 hc
  exact h.exact_store hk ((h.distinct_entry k).delete s) (Entry.delete_changed s _) _

theorem prune_changed (t : Table) (now : Nat) :
    (t.prune now).changed = true ↔ ∃ k e, t.get? k = some e ∧ ∃ b ∈ e, b.stale now = true := by
  simp only [prune, Bool.not_eq_true', List.isEmpty_eq_false_iff_exists_mem, List.mem_flatMap]
  constructor
  · rintro ⟨r, ⟨k, e⟩, he, hr⟩
    obtain ⟨b, hb, -⟩ := List.mem_map.1 hr
    obtain ⟨hb, hs⟩ := List.mem_filter.1 hb
    exact ⟨k, e, RouteMap.get?_eq_some_iff.2 he, b, hb, hs⟩
  · rintro ⟨k, e, he, b, hb, hs⟩
    exact ⟨expired k b, (k, e), RouteMap.get?_eq_some_iff.1 he,
      List.mem_map_of_mem (List.mem_filter.2 ⟨hb, hs⟩)⟩

theorem Sound.exact_prune (h : t.Sound) (now : Nat) : t.Exact (t.prune now) := by
  rw [Exact, prune_changed, ne_eq, (h.prune now).snapshot_eq_iff h]
  simp only [entry_prune]
  constructor
  · rintro ⟨k, e, he, b, hb, hs⟩ hall
    have hk : t.entry k = e := by rw [entry, he, Option.getD_some]
    have hlen : (e.fresh now).length = e.length := by
      simpa [Entry.servers, hk] using congrArg List.length (hall k)
    have hfresh := List.filter_eq_self.1 (List.filter_sublist.eq_of_length hlen) b hb
    simp [hs] at hfresh
  · intro hne
    by_contra hnone
    refine hne fun k => ?_
    congr 1
    refine List.filter_eq_self.2 fun b hb => ?_
    rw [Bool.not_eq_true', ← Bool.not_eq_true]
    intro hs
    refine hnone ⟨k, t.entry k, ?_, b, hb, hs⟩
    rw [h.get?_eq, if_neg (List.ne_nil_of_mem hb)]

/-- A change leaves a sound table, and one that tells of nothing leaves what is served as it was. -/
structure Honest (before : Table) (c : Change) : Prop where
  sound : c.table.Sound
  told : c.changed = false → c.table.snapshot = before.snapshot

theorem Exact.honest (h : t.Exact c) (hc : c.table.Sound) : t.Honest c := by
  refine ⟨hc, fun hfalse => ?_⟩
  by_contra hne
  rw [h.2 hne] at hfalse
  cases hfalse

theorem honest_unchanged (h : t.Sound) (log : List Log.Record) : t.Honest (t.unchanged log) :=
  ⟨h, fun _ => rfl⟩

/-- Changes one after another are as honest as each of them. -/
theorem Honest.then (h : t.Honest c) {next : Table → Change}
    (hn : ∀ u : Table, u.Sound → u.Honest (next u)) : t.Honest (Change.then c next) := by
  obtain ⟨hs, ht⟩ := h
  obtain ⟨hs', ht'⟩ := hn c.table hs
  refine ⟨hs', fun hc => ?_⟩
  obtain ⟨h₁, h₂⟩ := Bool.or_eq_false_iff.1 hc
  exact (ht' h₂).trans (ht h₁)

theorem Honest.foldl {α : Type} {next : α → Table → Change}
    (hn : ∀ a (u : Table), u.Sound → u.Honest (next a u)) (xs : List α) (h : t.Honest c) :
    t.Honest (xs.foldl (fun change a => Change.then change (next a)) c) := by
  induction xs generalizing c with
  | nil => exact h
  | cons a xs ih => exact ih (h.then (hn a))

end RouteSync.Table
