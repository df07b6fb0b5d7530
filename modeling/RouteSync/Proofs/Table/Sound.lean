import RouteSync.Proofs.Route.Map
import RouteSync.Proofs.Table.Entry
import RouteSync.Table.Basic

/-! What holds of every table that was built by its operations. -/
namespace RouteSync.Table

/-- Every key has a port, and some servers, no two of them with the same endpoint. -/
structure Sound (t : Table) : Prop where
  valid : ∀ {k e}, t.get? k = some e → k.valid = true
  nonempty : ∀ {k e}, t.get? k = some e → e ≠ []
  distinct : ∀ {k e}, t.get? k = some e → Entry.Distinct e

theorem sound_empty : empty.Sound where
  valid h := by cases h
  nonempty h := by cases h
  distinct h := by cases h

theorem get?_store (t : Table) (k k' : Key) (e : Entry) :
    (t.store k e).get? k' = if k' = k then (if e = [] then none else some e) else t.get? k' := by
  unfold store
  cases e with
  | nil => simp [get?, RouteMap.get?_erase]
  | cons b bs => simp [get?, RouteMap.get?_insert]

theorem entry_store (t : Table) (k k' : Key) (e : Entry) :
    (t.store k e).entry k' = if k' = k then e else t.entry k' := by
  rw [entry, get?_store]
  split
  · split <;> simp_all
  · rfl

namespace Sound

variable {t : Table}

theorem get?_eq (h : t.Sound) (k : Key) :
    t.get? k = if t.entry k = [] then none else some (t.entry k) := by
  unfold entry
  cases hk : t.get? k with
  | none => rfl
  | some e => simp [h.nonempty hk]

theorem distinct_entry (h : t.Sound) (k : Key) : (t.entry k).Distinct := by
  unfold entry
  cases hk : t.get? k with
  | none => exact List.nodup_nil
  | some e => exact h.distinct hk

theorem store (h : t.Sound) {k : Key} (hk : k.valid = true) {e : Entry} (he : e.Distinct) :
    (t.store k e).Sound := by
  have hget : ∀ {k' e'}, (t.store k e).get? k' = some e' →
      (k' = k ∧ e' = e ∧ e ≠ []) ∨ t.get? k' = some e' := by
    intro k' e' h'
    rw [get?_store] at h'
    split at h'
    · rename_i hkk
      split at h'
      · cases h'
      · rename_i hne
        exact .inl ⟨hkk, (Option.some.inj h').symm, hne⟩
    · exact .inr h'
  refine ⟨fun h' => ?_, fun h' => ?_, fun h' => ?_⟩
  · rcases hget h' with ⟨rfl, -, -⟩ | h'
    · exact hk
    · exact h.valid h'
  · rcases hget h' with ⟨-, rfl, hne⟩ | h'
    · exact hne
    · exact h.nonempty h'
  · rcases hget h' with ⟨-, rfl, -⟩ | h'
    · exact he
    · exact h.distinct h'

end Sound

theorem checked_eq_ok_iff {α : Type} {k : Key} {a b : α} :
    checked k a = .ok b ↔ k.valid = true ∧ a = b := by
  unfold checked
  split <;> simp_all

theorem set_eq_ok_iff {t : Table} {k : Key} {e : Entry} {c : Change} :
    t.set k e = .ok c ↔ k.valid = true ∧
      c = { table := t.store k (e.orderedLike (t.entry k)),
            changed := (e.orderedLike (t.entry k)).servers ≠ (t.entry k).servers } := by
  rw [set, checked_eq_ok_iff, eq_comm (b := c)]

theorem get?_set_of_ne {t : Table} {k k' : Key} {e : Entry} {c : Change}
    (hc : t.set k' e = .ok c) (hk : k ≠ k') : c.table.get? k = t.get? k := by
  obtain ⟨-, rfl⟩ := set_eq_ok_iff.1 hc
  rw [get?_store, if_neg hk]

theorem upsert_eq_ok_iff {t : Table} {k : Key} {s : Server} {now : Nat} {c : Change} :
    t.upsert k s now = .ok c ↔ k.valid = true ∧
      c = ⟨t.store k ((t.entry k).upsert now s).entry, ((t.entry k).upsert now s).changed,
        ((t.entry k).upsert now s).log⟩ := by
  rw [upsert, checked_eq_ok_iff, eq_comm (b := c)]

theorem delete_eq_ok_iff {t : Table} {k : Key} {s : Server} {c : Change} :
    t.delete k s = .ok c ↔ k.valid = true ∧
      c = ⟨t.store k ((t.entry k).delete s).entry, ((t.entry k).delete s).changed,
        ((t.entry k).delete s).log⟩ := by
  rw [delete, checked_eq_ok_iff, eq_comm (b := c)]

theorem get?_prune (t : Table) (now : Nat) (k : Key) :
    (t.prune now).table.get? k = (t.get? k).bind fun e =>
      if e.fresh now = [] then none else some (e.fresh now) := by
  simp [prune, get?, RouteMap.get?_filterMap]

theorem entry_prune (t : Table) (now : Nat) (k : Key) :
    (t.prune now).table.entry k = (t.entry k).fresh now := by
  rw [entry, entry, get?_prune]
  cases t.get? k with
  | none => rfl
  | some e => by_cases he : e.fresh now = [] <;> simp [he]

namespace Sound

variable {t : Table} {c : Change} {k : Key}

theorem set (h : t.Sound) {e : Entry} (he : e.Distinct) (hc : t.set k e = .ok c) :
    c.table.Sound := by
  obtain ⟨hk, rfl⟩ := set_eq_ok_iff.1 hc
  exact h.store hk (he.orderedLike (h.distinct_entry k))

theorem upsert (h : t.Sound) {s : Server} {now : Nat} (hc : t.upsert k s now = .ok c) :
    c.table.Sound := by
  obtain ⟨hk, rfl⟩ := upsert_eq_ok_iff.1 hc
  exact h.store hk ((h.distinct_entry k).upsert now s)

theorem delete (h : t.Sound) {s : Server} (hc : t.delete k s = .ok c) : c.table.Sound := by
  obtain ⟨hk, rfl⟩ := delete_eq_ok_iff.1 hc
  exact h.store hk ((h.distinct_entry k).delete s)

theorem prune (h : t.Sound) (now : Nat) : (t.prune now).table.Sound := by
  have hget : ∀ {k e}, (t.prune now).table.get? k = some e →
      ∃ e', t.get? k = some e' ∧ e = e'.fresh now ∧ e ≠ [] := by
    intro k e h'
    rw [get?_prune] at h'
    obtain ⟨e', he', h'⟩ := Option.bind_eq_some_iff.1 h'
    split at h'
    · cases h'
    · rename_i hne
      obtain rfl := Option.some.inj h'
      exact ⟨e', he', rfl, hne⟩
  refine ⟨fun h' => ?_, fun h' => ?_, fun h' => ?_⟩ <;> obtain ⟨e', he', rfl, hne⟩ := hget h'
  · exact h.valid he'
  · exact hne
  · exact (h.distinct he').fresh now

end Sound

end RouteSync.Table
