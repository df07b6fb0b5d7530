import Mathlib.Data.List.Induction
import RouteSync.Proofs.Table.Listing

/-! What a log of events says, and why a table that is behind it, or ahead, catches up. -/
namespace RouteSync

/-- Of the server at an endpoint of a key the last event decides, whatever the tags say. -/
def Event.settle (e : Event) (k : Key) (p : String × UInt16) (stored : Option Server) :
    Option Server :=
  match e.serverAt k p, e.action with
  | none, _ => stored
  | some s, .upsert => some s
  | some _, .delete => none

/-- The server that a log leaves at an endpoint of a key. -/
def truth (log : List Event) (k : Key) (p : String × UInt16) : Option Server :=
  log.foldl (fun stored e => e.settle k p stored) none

/-- Of the same backend and with the same guid, an upsert is newer than what came before it, and
a delete is not older. -/
def Event.Follows (earlier later : Event) : Prop :=
  ∀ k p s s', earlier.serverAt k p = some s → later.serverAt k p = some s' →
    s.tag.guid = s'.tag.guid →
      match later.action with
      | .upsert => s.tag.index < s'.tag.index
      | .delete => s.tag.index ≤ s'.tag.index

def Ordered (log : List Event) : Prop := log.Pairwise Event.Follows

namespace Tag

theorem succeeds_iff {a b : Tag} :
    a.succeeds b = true ↔ (b.guid = a.guid → b.index < a.index) := by
  by_cases h : a.guid = b.guid <;> simp [succeeds, h, eq_comm]

theorem succeedsOrEquals_iff {a b : Tag} :
    a.succeedsOrEquals b = true ↔ (b.guid = a.guid → b.index ≤ a.index) := by
  rw [succeedsOrEquals, Bool.or_eq_true, decide_eq_true_eq, succeeds_iff]
  constructor
  · rintro (rfl | h)
    · exact fun _ => UInt32.le_refl _
    · exact fun hg => UInt32.le_of_lt (h hg)
  · intro h
    by_cases hlt : b.guid = a.guid → b.index < a.index
    · exact .inr hlt
    · obtain ⟨hg, hge⟩ := Classical.not_imp.1 hlt
      have heq : a.index = b.index := UInt32.le_antisymm (UInt32.not_lt.1 hge) (h hg)
      left
      cases a
      cases b
      simp_all

end Tag

variable {k : Key} {p : String × UInt16}

theorem truth_append (log more : List Event) :
    truth (log ++ more) k p = more.foldl (fun stored e => e.settle k p stored) (truth log k p) :=
  List.foldl_append

theorem truth_concat (log : List Event) (e : Event) :
    truth (log ++ [e]) k p = e.settle k p (truth log k p) := truth_append log [e]

/-- The server at an endpoint is one that some event of the log put there. -/
theorem exists_of_truth {log : List Event} {s : Server} (h : truth log k p = some s) :
    ∃ e ∈ log, e.serverAt k p = some s := by
  induction log using List.reverseRecOn with
  | nil => cases h
  | append_singleton log e ih =>
    rw [truth_concat, Event.settle] at h
    cases hat : e.serverAt k p with
    | none =>
      rw [hat] at h
      obtain ⟨f, hf, hs⟩ := ih h
      exact ⟨f, List.mem_append_left _ hf, hs⟩
    | some s' =>
      cases ha : e.action with
      | upsert =>
        rw [hat, ha] at h
        exact ⟨e, by simp, hat.trans h⟩
      | delete =>
        rw [hat, ha] at h
        cases h

theorem endpoint_of_truth {log : List Event} {s : Server} (h : truth log k p = some s) :
    s.endpoint = p := by
  obtain ⟨e, -, hat⟩ := exists_of_truth h
  exact (Event.serverAt_eq_some_iff.1 hat).2

namespace Event

/-- An event that follows the one behind a stored server is as good as its word. -/
theorem revise_eq_settle {e : Event} {stored : Option Server}
    (h : ∀ s, stored = some s → ∃ f : Event, f.Follows e ∧ f.serverAt k p = some s) :
    e.revise k p stored = e.settle k p stored := by
  unfold revise settle
  cases hat : e.serverAt k p with
  | none => rfl
  | some s =>
    cases stored with
    | none => cases e.action <;> rfl
    | some old =>
      obtain ⟨f, hf, hold⟩ := h old rfl
      have hfollow := hf k p old s hold hat
      cases ha : e.action with
      | upsert =>
        have hs := Tag.succeeds_iff.2 fun hg => by simpa only [ha] using hfollow hg
        simp [Server.newest, hs]
      | delete =>
        have hs := Tag.succeedsOrEquals_iff.2 fun hg => by simpa only [ha] using hfollow hg
        simp [Server.withdraw, hs]

/-- Whatever is stored, an event is passed over or taken at its word. -/
theorem revise_cases (e : Event) (stored said : Option Server) :
    e.revise k p stored = stored ∨ e.revise k p stored = e.settle k p said := by
  unfold revise settle
  cases e.serverAt k p with
  | none => exact .inl rfl
  | some s =>
    cases e.action with
    | upsert =>
      rcases s.newest_eq stored with h | h
      · exact .inr (congrArg some h)
      · exact .inl h.symm
    | delete =>
      cases stored with
      | none => exact .inl rfl
      | some old => by_cases h : s.tag.succeedsOrEquals old.tag = true <;> simp [Server.withdraw, h]

end Event

/-- A table that is behind catches up. -/
theorem foldl_revise_behind {done rest : List Event} (h : Ordered (done ++ rest)) :
    rest.foldl (fun stored e => e.revise k p stored) (truth done k p) =
      truth (done ++ rest) k p := by
  induction rest generalizing done with
  | nil => rw [List.append_nil, List.foldl_nil]
  | cons e rest ih =>
    have hfollows : ∀ s, truth done k p = some s →
        ∃ f : Event, f.Follows e ∧ f.serverAt k p = some s := by
      intro s hs
      obtain ⟨f, hf, hat⟩ := exists_of_truth hs
      exact ⟨f, (List.pairwise_append.1 h).2.2 f hf e List.mem_cons_self, hat⟩
    rw [List.append_cons] at h ⊢
    rw [List.foldl_cons, Event.revise_eq_settle hfollows, ← truth_concat, ih h]

/-- A table that is ahead may fall behind when old events come again, and is right in the end. -/
theorem foldl_revise_ahead {done rest : List Event} (h : Ordered (done ++ rest)) :
    rest.foldl (fun stored e => e.revise k p stored) (truth (done ++ rest) k p) =
      truth (done ++ rest) k p := by
  induction rest generalizing done with
  | nil => rfl
  | cons e rest ih =>
    rw [List.append_cons] at h ⊢
    rw [List.foldl_cons]
    rcases e.revise_cases (k := k) (p := p) (truth (done ++ [e] ++ rest) k p)
      (truth done k p) with hv | hv
    · rw [hv, ih h]
    · rw [hv, ← truth_concat, foldl_revise_behind h]

/-- From any point between the start of the events and their end, they lead to the end. -/
theorem foldl_revise_truth {log : List Event} (h : Ordered log) {start point : Nat}
    (hle : start ≤ point) :
    (log.drop start).foldl (fun stored e => e.revise k p stored) (truth (log.take point) k p) =
      truth log k p := by
  have hpoint : log.take point = log.take start ++ (log.drop start).take (point - start) := by
    rw [← List.take_add, Nat.add_sub_cancel' hle]
  have hlog : log = log.take point ++ log.drop point := (List.take_append_drop point log).symm
  have hdrop : log.drop start = (log.drop start).take (point - start) ++ log.drop point := by
    rw [← Nat.add_sub_cancel' hle, ← List.drop_drop, Nat.add_sub_cancel' hle,
      List.take_append_drop]
  have hsofar : Ordered (log.take start ++ (log.drop start).take (point - start)) := by
    rw [← hpoint]
    exact h.sublist (List.take_sublist _ _)
  rw [hdrop, List.foldl_append, hpoint, foldl_revise_ahead hsofar, ← hpoint,
    foldl_revise_behind (hlog ▸ h), ← hlog]

/-- The listing has the servers that a log leaves, and no others. -/
def Lists (ms : List Mapping) (log : List Event) : Prop :=
  ∀ k s, (∃ m ∈ ms, m.route = .ok (k, s)) ↔ truth log k s.endpoint = some s

theorem Lists.upserted (m : Mapping) : Lists [m] [⟨.upsert, m⟩] := by
  intro k s
  have ht : truth [⟨.upsert, m⟩] k s.endpoint = Event.serverAt ⟨.upsert, m⟩ k s.endpoint := by
    unfold truth
    rw [List.foldl_cons, List.foldl_nil, Event.settle]
    cases Event.serverAt ⟨.upsert, m⟩ k s.endpoint <;> rfl
  rw [ht, Event.serverAt_eq_some_iff]
  simp

theorem Lists.latest_eq_truth {ms : List Mapping} {log : List Event} (h : Lists ms log) :
    Server.latest p none (ms.filterMap (Mapping.serverFor k)) = truth log k p := by
  cases hl : Server.latest p none (ms.filterMap (Mapping.serverFor k)) with
  | none =>
    obtain ⟨-, hnone⟩ := Server.latest_eq_none_iff.1 hl
    cases ht : truth log k p with
    | none => rfl
    | some s =>
      have hp := endpoint_of_truth ht
      obtain ⟨m, hm, hr⟩ := (h k s).2 (by rw [hp, ht])
      have hmem := List.mem_filterMap.2 ⟨m, hm, Mapping.serverFor_eq_some_iff.2 hr⟩
      exact absurd hp (hnone s hmem)
  | some s =>
    rcases Server.mem_of_latest hl with ⟨hmem, rfl⟩ | hnone
    · obtain ⟨m, hm, hs⟩ := List.mem_filterMap.1 hmem
      exact ((h k s).1 ⟨m, hm, Mapping.serverFor_eq_some_iff.1 hs⟩).symm
    · cases hnone

namespace Table

/-- Under every key the table has the servers that a log leaves, and no others. -/
def Shows (t : Table) (log : List Event) : Prop :=
  ∀ k s, s ∈ (t.entry k).servers ↔ truth log k s.endpoint = some s

theorem Sound.shows_iff {t : Table} (h : t.Sound) {log : List Event} :
    t.Shows log ↔ ∀ k p, t.server? k p = truth log k p := by
  constructor
  · intro hs k p
    ext s
    rw [server?, (h.distinct_entry k).server?_eq_some_iff, hs k s]
    constructor
    · rintro ⟨ht, rfl⟩
      exact ht
    · intro ht
      obtain rfl := endpoint_of_truth ht
      exact ⟨ht, rfl⟩
  · intro hs k s
    rw [(h.distinct_entry k).mem_servers_iff, ← hs k s.endpoint, server?]

/-- A listing leads to the point of the log at which it was taken, or leaves a key where it was. -/
theorem Sound.server?_merge_of_lists {t : Table} (h : t.Sound) {log : List Event}
    {ms : List Mapping} (hms : Lists ms log) (now : Nat) :
    (t.merge ms now).table.server? k p = t.server? k p ∨
      (t.merge ms now).table.server? k p = truth log k p := by
  rw [h.server?_merge]
  split
  · exact .inl rfl
  · exact .inr hms.latest_eq_truth

end Table
end RouteSync
