import Mathlib.Data.List.Nodup
import RouteSync.Proofs.Table.Listing

/-! The order in which the servers of a key are served. An operation leaves them as they stood, and
what it adds comes after them. -/
namespace RouteSync
namespace Lineup

variable {α β : Type} {before after xs ys : List α} {a b : α}

/-- `a` stands before `b`. -/
def Precedes (xs : List α) (a b : α) : Prop := [a, b].Sublist xs

/-- What is left stands first and as it stood, and what is new comes after it. -/
def Keeps (before after : List α) : Prop :=
  ∃ kept added, after = kept ++ added ∧ kept.Sublist before ∧ ∀ x ∈ added, x ∉ before

instance [DecidableEq α] (xs : List α) (a b : α) : Decidable (Precedes xs a b) :=
  inferInstanceAs (Decidable (List.Sublist _ _))

theorem Precedes.mem_left (h : Precedes xs a b) : a ∈ xs := h.subset List.mem_cons_self

theorem Precedes.mem_right (h : Precedes xs a b) : b ∈ xs :=
  h.subset (List.mem_cons_of_mem _ List.mem_cons_self)

/-- Where nothing stands twice, what is left out does not matter to the order of the rest. -/
theorem precedes_iff_of_sublist (h : xs.Sublist ys) (hys : ys.Nodup) (ha : a ∈ xs) (hb : b ∈ xs) :
    Precedes xs a b ↔ Precedes ys a b := by
  refine ⟨fun hab => List.Sublist.trans hab h, fun hab => ?_⟩
  unfold Precedes at *
  induction h with
  | slnil => exact hab
  | @cons xs ys c h ih =>
    obtain ⟨hc, hys⟩ := List.nodup_cons.1 hys
    rcases List.sublist_cons_iff.1 hab with hab | ⟨rest, heq, -⟩
    · exact ih hys ha hb hab
    · obtain ⟨rfl, -⟩ := List.cons.inj heq
      exact absurd (h.subset ha) hc
  | @cons_cons xs ys c h ih =>
    obtain ⟨hc, hys⟩ := List.nodup_cons.1 hys
    have hof {x : α} (hx : x ∈ c :: xs) (hmem : x ∈ ys) : x ∈ xs := by
      rcases List.mem_cons.1 hx with rfl | hx
      · exact absurd hmem hc
      · exact hx
    rcases List.sublist_cons_iff.1 hab with hab | ⟨rest, heq, hrest⟩
    · exact (ih hys (hof ha (Precedes.mem_left hab)) (hof hb (Precedes.mem_right hab)) hab).cons c
    · obtain ⟨rfl, rfl⟩ := List.cons.inj heq
      exact (List.singleton_sublist.2 (hof hb (List.singleton_sublist.1 hrest))).cons_cons a

theorem precedes_map_iff {f : α → β} (hxs : (xs.map f).Nodup) (ha : a ∈ xs) (hb : b ∈ xs) :
    Precedes (xs.map f) (f a) (f b) ↔ Precedes xs a b := by
  refine ⟨fun h => ?_, fun h => List.Sublist.map f h⟩
  obtain ⟨pair, hpair, heq⟩ := List.sublist_map_iff.1 h
  obtain ⟨a', rest, rfl, hfa, hrest⟩ := List.map_eq_cons_iff.1 heq.symm
  obtain ⟨b', rfl, hfb⟩ := List.map_eq_singleton_iff.1 hrest
  have ha' : a' = a := List.inj_on_of_nodup_map hxs (Precedes.mem_left hpair) ha hfa
  have hb' : b' = b := List.inj_on_of_nodup_map hxs (Precedes.mem_right hpair) hb hfb
  rw [← ha', ← hb']
  exact hpair

namespace Keeps

theorem of_sublist (h : after.Sublist before) : Keeps before after :=
  ⟨after, [], (List.append_nil _).symm, h, fun _ hx => by cases hx⟩

theorem refl (xs : List α) : Keeps xs xs := of_sublist (List.Sublist.refl _)

theorem append_singleton (h : a ∉ before) : Keeps before (before ++ [a]) :=
  ⟨before, [a], rfl, List.Sublist.refl _, fun _ hx => by rwa [List.mem_singleton.1 hx]⟩

/-- What was there and still is has not changed places. -/
theorem precedes_iff (h : Keeps before after) (hbefore : before.Nodup) (hafter : after.Nodup)
    (ha : a ∈ before ∧ a ∈ after) (hb : b ∈ before ∧ b ∈ after) :
    Precedes before a b ↔ Precedes after a b := by
  obtain ⟨kept, added, rfl, hkept, hadded⟩ := h
  have hof {x : α} (hx : x ∈ before ∧ x ∈ kept ++ added) : x ∈ kept := by
    rcases List.mem_append.1 hx.2 with hmem | hmem
    · exact hmem
    · exact absurd hx.1 (hadded x hmem)
  rw [← precedes_iff_of_sublist hkept hbefore (hof ha) (hof hb),
    ← precedes_iff_of_sublist (List.sublist_append_left kept added) hafter (hof ha) (hof hb)]

end Keeps
end Lineup

open Lineup

namespace Entry

theorem keeps_edit (a : Action) (s : Server) (now : Nat) (e : Entry) :
    Keeps e.endpoints (a.edit s now e).entry.endpoints := by
  cases a with
  | upsert =>
    change Keeps e.endpoints (endpoints (upsert now s e).entry)
    rw [endpoints_upsert]
    split
    · exact .refl _
    · rename_i hs
      exact .append_singleton hs
  | delete => exact .of_sublist (endpoints_delete_sublist s e)

theorem keeps_orderedLike (new old : Entry) : Keeps old.endpoints (orderedLike new old).endpoints :=
  ⟨_, _, endpoints_orderedLike new old, List.filter_sublist,
    fun _ hx => by simpa using (List.mem_filter.1 hx).2⟩

end Entry

namespace Table

variable (k : Key)

theorem keeps_apply (t : Table) (e : Event) (now : Nat) :
    Keeps (t.entry k).endpoints ((t.apply e now).table.entry k).endpoints := by
  rcases t.entry_apply e now k with heq | ⟨s, -, heq⟩ <;> rw [heq]
  · exact .refl _
  · exact Entry.keeps_edit _ s now _

theorem keeps_merge (t : Table) (ms : List Mapping) (now : Nat) :
    Keeps (t.entry k).endpoints ((t.merge ms now).table.entry k).endpoints := by
  rw [entry_merge]
  split
  · exact .refl _
  · exact Entry.keeps_orderedLike _ _

theorem keeps_set {t : Table} {k' : Key} {e : Entry} {c : Change} (hc : t.set k' e = .ok c) :
    Keeps (t.entry k).endpoints (c.table.entry k).endpoints := by
  obtain ⟨-, rfl⟩ := set_eq_ok_iff.1 hc
  rw [entry_store]
  split
  · rename_i hk
    rw [hk]
    exact Entry.keeps_orderedLike _ _
  · exact .refl _

theorem keeps_setListed (now : Nat) (route : Key × List Server) (t : Table) :
    Keeps (t.entry k).endpoints ((setListed now route t).table.entry k).endpoints := by
  unfold setListed
  split
  · rename_i c hc
    exact keeps_set k hc
  · exact .refl _

theorem keeps_prune (t : Table) (now : Nat) :
    Keeps (t.entry k).endpoints ((t.prune now).table.entry k).endpoints := by
  rw [entry_prune]
  exact .of_sublist (List.filter_sublist.map _)

end Table

/-- The endpoints of a key, in the order in which they are served. -/
def Snapshot.order (s : Snapshot) (k : Key) : List (String × UInt16) :=
  ((s.get? k).getD []).map Server.endpoint

theorem Table.order_snapshot (t : Table) (k : Key) :
    t.snapshot.order k = (t.entry k).endpoints := by
  rw [Snapshot.order, ← entry_servers, Entry.servers, List.map_map]
  rfl

end RouteSync
