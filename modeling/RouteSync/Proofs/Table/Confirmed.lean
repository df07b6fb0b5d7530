import Mathlib.Data.List.Nodup
import RouteSync.Proofs.Table.Listing

/-! When servers were last confirmed. No operation takes a confirmation back: a server that it
leaves stood there with the same time, or is confirmed as of now. -/
namespace RouteSync
namespace Entry

variable {now : Nat} {s : Server} {e : Entry} {b : Tracked}

theorem confirmed_add (h : ∀ c ∈ e, c.confirmed = now) (hb : b ∈ add now s e) :
    b.confirmed = now := by
  induction e with
  | nil =>
    rw [add, List.mem_singleton] at hb
    rw [hb]
  | cons c cs ih =>
    have hc : c.confirmed = now := h c List.mem_cons_self
    have hcs : ∀ d ∈ cs, d.confirmed = now := fun d hd => h d (List.mem_cons_of_mem _ hd)
    simp only [add] at hb
    split at hb
    · rcases List.mem_cons.1 hb with rfl | hb
      · split <;> exact hc
      · exact hcs b hb
    · rcases List.mem_cons.1 hb with rfl | hb
      · exact hc
      · exact ih hcs hb

theorem confirmed_ofServers {ss : List Server} (hb : b ∈ ofServers ss now) :
    b.confirmed = now := by
  suffices h : ∀ e : Entry, (∀ c ∈ e, c.confirmed = now) →
      ∀ c ∈ ss.foldl (fun e s => add now s e) e, c.confirmed = now from
    h [] (fun _ hc => by cases hc) b hb
  clear hb
  induction ss with
  | nil => exact fun _ h => h
  | cons s ss ih => exact fun e h => ih _ fun c hc => confirmed_add h hc

theorem replace_eq (now : Nat) (s : Server) (b : Tracked) :
    (replace now s b).1 = b ∨ (replace now s b).1 = ⟨s, now⟩ := by
  unfold replace
  split
  · exact .inr rfl
  · split
    · rename_i heq
      exact .inr (by rw [← heq])
    · exact .inl rfl

theorem mem_or_eq_of_upsert (hb : b ∈ (upsert now s e).entry) : b ∈ e ∨ b = ⟨s, now⟩ := by
  induction e with
  | nil => exact .inr (List.mem_singleton.1 hb)
  | cons c cs ih =>
    simp only [Entry.upsert] at hb
    split at hb
    · rcases List.mem_cons.1 hb with rfl | hb
      · exact (replace_eq now s c).imp_left fun h => by rw [h]; exact List.mem_cons_self
      · exact .inl (List.mem_cons_of_mem _ hb)
    · rcases List.mem_cons.1 hb with rfl | hb
      · exact .inl List.mem_cons_self
      · exact (ih hb).imp_left (List.mem_cons_of_mem _)

theorem mem_of_upsert (hb : b ∈ (upsert now s e).entry) : b ∈ e ∨ b.confirmed = now :=
  (mem_or_eq_of_upsert hb).imp_right fun h => by rw [h]

theorem mem_of_delete (hb : b ∈ (delete s e).entry) : b ∈ e := by
  induction e with
  | nil => exact hb
  | cons c cs ih =>
    simp only [Entry.delete] at hb
    split at hb
    · split at hb
      · exact List.mem_cons_of_mem _ hb
      · exact hb
    · rcases List.mem_cons.1 hb with rfl | hb
      · exact List.mem_cons_self
      · exact List.mem_cons_of_mem _ (ih hb)

/-- A record that is put in place of another, or repeated, is confirmed with it. -/
theorem confirmed_replace (h : (replace now s b).1.server = s) :
    (replace now s b).1.confirmed = now := by
  revert h
  unfold replace
  split
  · exact fun _ => rfl
  · split
    · exact fun _ => rfl
    · rename_i hne
      exact fun h => absurd h hne

theorem Distinct.confirmed_upsert (h : e.Distinct) (hb : b ∈ (Entry.upsert now s e).entry)
    (hs : b.server = s) : b.confirmed = now := by
  induction e with
  | nil =>
    rw [Entry.upsert, List.mem_singleton] at hb
    rw [hb]
  | cons c cs ih =>
    simp only [Entry.upsert, Tracked.same, Server.same_iff] at hb
    split at hb
    · rename_i hc
      rcases List.mem_cons.1 hb with rfl | hb
      · exact confirmed_replace hs
      · have hmem : b.server.endpoint ∈ endpoints cs := List.mem_map_of_mem hb
        rw [hs, ← hc] at hmem
        exact absurd hmem h.head
    · rename_i hc
      rcases List.mem_cons.1 hb with rfl | hb
      · exact absurd (congrArg Server.endpoint hs) hc
      · exact ih h.tail hb

theorem Distinct.eq_of_endpoint_eq (h : e.Distinct) {c : Tracked} (hb : b ∈ e) (hc : c ∈ e)
    (hend : b.server.endpoint = c.server.endpoint) : b = c :=
  List.inj_on_of_nodup_map h hb hc hend

end Entry

/-- Whether an event confirms the server at an endpoint of a key: its record stands there in the
table that comes after it, as a new one, in place of an older one, or repeated. -/
def Event.confirms (e : Event) (after : Table) (k : Key) (p : String × UInt16) : Bool :=
  e.action = .upsert && (e.serverAt k p).any fun s => after.server? k p = some s

theorem Event.confirms_iff {e : Event} {t : Table} {k : Key} {p : String × UInt16} :
    e.confirms t k p = true ↔ e.action = .upsert ∧
      ∃ s, e.mapping.route = .ok (k, s) ∧ s.endpoint = p ∧ t.server? k p = some s := by
  simp [confirms, Option.any_eq_true, Event.serverAt_eq_some_iff, and_assoc]

namespace Table

variable {t : Table} {now : Nat} {k : Key} {b : Tracked}

theorem mem_of_apply {e : Event} (hb : b ∈ (t.apply e now).table.entry k) :
    b ∈ t.entry k ∨ b.confirmed = now := by
  obtain ⟨why, log, -, heq⟩ | ⟨k', s, -, -, hc⟩ | ⟨k', s, -, -, hc⟩ := t.apply_cases e now
  · rw [heq] at hb
    exact .inl hb
  · obtain ⟨-, heq⟩ := upsert_eq_ok_iff.1 hc
    rw [heq, entry_store] at hb
    split at hb
    · rename_i hk
      subst hk
      exact Entry.mem_of_upsert hb
    · exact .inl hb
  · obtain ⟨-, heq⟩ := delete_eq_ok_iff.1 hc
    rw [heq, entry_store] at hb
    split at hb
    · rename_i hk
      subst hk
      exact .inl (Entry.mem_of_delete hb)
    · exact .inl hb

/-- A repeated record is confirmed anew. -/
theorem Sound.confirmed_apply (h : t.Sound) {e : Event} {s : Server} (ha : e.action = .upsert)
    (hr : e.mapping.route = .ok (k, s)) (hb : b ∈ (t.apply e now).table.entry k)
    (hs : b.server = s) : b.confirmed = now := by
  obtain ⟨why, log, hr', -⟩ | ⟨k', s', hr', -, hc⟩ | ⟨k', s', -, ha', -⟩ := t.apply_cases e now
  · rw [hr] at hr'
    cases hr'
  · rw [hr] at hr'
    obtain ⟨rfl, rfl⟩ := Prod.mk.inj (Except.ok.inj hr')
    obtain ⟨-, heq⟩ := upsert_eq_ok_iff.1 hc
    rw [heq, entry_store, if_pos rfl] at hb
    exact (h.distinct_entry k).confirmed_upsert hb hs
  · rw [ha] at ha'
    cases ha'

theorem Sound.server?_of_mem (h : t.Sound) (hb : b ∈ t.entry k) :
    t.server? k b.server.endpoint = some b.server :=
  (h.distinct_entry k).mem_servers_iff.1 (List.mem_map_of_mem hb)

/-- What an event confirms is confirmed as of now, and all others stood there already. -/
theorem Sound.confirmed_or_mem_of_apply (h : t.Sound) {e : Event}
    (hb : b ∈ (t.apply e now).table.entry k) :
    if e.confirms (t.apply e now).table k b.server.endpoint then b.confirmed = now
      else b ∈ t.entry k := by
  have hafter : (t.apply e now).table.Sound := (h.honest_apply e now).sound
  have hserver := hafter.server?_of_mem hb
  split
  · rename_i hconfirms
    obtain ⟨haction, s, hroute, -, hs⟩ := Event.confirms_iff.1 hconfirms
    rw [hserver] at hs
    exact h.confirmed_apply haction hroute hb (Option.some.inj hs)
  · rename_i hother
    obtain heq | ⟨s, hroute, heq⟩ := t.entry_apply e now k
    · rwa [heq] at hb
    · rw [heq] at hb
      cases haction : e.action with
      | delete =>
        rw [haction] at hb
        exact Entry.mem_of_delete hb
      | upsert =>
        rw [haction] at hb
        rcases Entry.mem_or_eq_of_upsert hb with hb | rfl
        · exact hb
        · exact absurd (Event.confirms_iff.2 ⟨haction, s, hroute, rfl, hserver⟩) hother

/-- When the server at an endpoint of a key was confirmed, by what the table says. -/
def confirmed? (t : Table) (k : Key) (p : String × UInt16) : Option Nat :=
  (List.find? (fun b => b.server.endpoint = p) (t.entry k)).map (·.confirmed)

theorem Sound.confirmed?_of_mem (h : t.Sound) (hb : b ∈ t.entry k) :
    t.confirmed? k b.server.endpoint = some b.confirmed := by
  have hserver := h.server?_of_mem hb
  obtain ⟨c, hfind, hc⟩ := Option.map_eq_some_iff.1 hserver
  have hcb : c = b :=
    (h.distinct_entry k).eq_of_endpoint_eq (List.mem_of_find?_eq_some hfind) hb (by rw [hc])
  rw [confirmed?, hfind, hcb]
  rfl

theorem mem_of_merge {ms : List Mapping} (hb : b ∈ (t.merge ms now).table.entry k) :
    b ∈ t.entry k ∨ b.confirmed = now := by
  rw [entry_merge] at hb
  split at hb
  · exact .inl hb
  · have hd := Entry.distinct_ofServers (ms.filterMap (Mapping.serverFor k)) now
    exact .inr (Entry.confirmed_ofServers ((Entry.mem_orderedLike hd).1 hb))

theorem mem_of_set {k' : Key} {ss : List Server} {c : Change}
    (hc : t.set k' (Entry.ofServers ss now) = .ok c) (hb : b ∈ c.table.entry k) :
    b ∈ t.entry k ∨ b.confirmed = now := by
  obtain ⟨-, rfl⟩ := set_eq_ok_iff.1 hc
  rw [entry_store] at hb
  split at hb
  · have hd := Entry.distinct_ofServers ss now
    exact .inr (Entry.confirmed_ofServers ((Entry.mem_orderedLike hd).1 hb))
  · exact .inl hb

theorem mem_of_prune (hb : b ∈ (t.prune now).table.entry k) : b ∈ t.entry k := by
  rw [entry_prune] at hb
  exact (List.mem_filter.1 hb).1

/-- A prune takes away a server if the confirmation that stands for it ran out, and only then. -/
theorem Sound.server?_prune_eq_none_iff (h : t.Sound) (hb : b ∈ t.entry k) :
    (t.prune now).table.server? k b.server.endpoint = none ↔ b.stale now = true := by
  rw [server?, entry_prune, Entry.server?_eq_none_iff]
  constructor
  · intro hnone
    by_contra hfresh
    have hmem : b ∈ (t.entry k).fresh now := List.mem_filter.2 ⟨hb, by simp [hfresh]⟩
    exact hnone (List.mem_map_of_mem hmem)
  · intro hstale hmem
    obtain ⟨c, hc, hend⟩ := List.mem_map.1 hmem
    obtain ⟨hc, hfresh⟩ := List.mem_filter.1 hc
    have hcb : c = b := (h.distinct_entry k).eq_of_endpoint_eq hc hb hend
    rw [hcb, hstale] at hfresh
    cases hfresh

end Table
end RouteSync
