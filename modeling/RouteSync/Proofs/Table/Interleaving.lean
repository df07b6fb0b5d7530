import RouteSync.Proofs.Table.Follow
import RouteSync.Proofs.Table.InPlace

/-! Events of different keys do not meet: how they are interleaved makes no difference. -/
namespace RouteSync

/-- The key that an event is about, also if its mapping describes no route. -/
def Event.key? (e : Event) : Option Key := e.mapping.key.toOption

theorem Event.key?_eq_of_route {e : Event} {k : Key} {s : Server}
    (h : e.mapping.route = .ok (k, s)) : e.key? = some k := by
  rw [key?, (Mapping.route_eq_ok_iff.1 h).1]
  rfl

/-- An event and when it comes. -/
abbrev TimedEvent := Event × Nat

/-- The events of a key, in their order. -/
def ofKey (k : Key) (es : List TimedEvent) : List TimedEvent := es.filter (·.1.key? = some k)

theorem ofKey_cons_of_eq {k : Key} {e : TimedEvent} (h : e.1.key? = some k)
    (es : List TimedEvent) : ofKey k (e :: es) = e :: ofKey k es :=
  List.filter_cons_of_pos (by simpa using h)

theorem ofKey_cons_of_ne {k : Key} {e : TimedEvent} (h : e.1.key? ≠ some k)
    (es : List TimedEvent) : ofKey k (e :: es) = ofKey k es :=
  List.filter_cons_of_neg (by simpa using h)

namespace Table

/-- Events one after another, each at its own time. -/
def follow (t : Table) (es : List TimedEvent) : Table :=
  es.foldl (fun t e => (t.apply e.1 e.2).table) t

/-- Which of the events of a key are reported as changes, in their order. -/
def reports (k : Key) (t : Table) : List TimedEvent → List Bool
  | [] => []
  | e :: es =>
    let c := t.apply e.1 e.2
    if e.1.key? = some k then c.changed :: reports k c.table es else reports k c.table es

theorem follow_cons (t : Table) (e : TimedEvent) (es : List TimedEvent) :
    t.follow (e :: es) = (t.apply e.1 e.2).table.follow es := rfl

variable {k : Key} {e : Event}

theorem get?_apply_of_ne (h : e.key? ≠ some k) (t : Table) (now : Nat) :
    (t.apply e now).table.get? k = t.get? k := by
  cases hr : e.mapping.route with
  | error why => rw [(apply_of_error hr t now).1]
  | ok route =>
    have hkey := Event.key?_eq_of_route hr
    have hne : k ≠ route.1 := by
      rintro rfl
      exact h hkey
    rw [(apply_of_route hr t now).1, get?_store, if_neg hne]

/-- Tables that agree on the key of an event agree on what becomes of it. -/
theorem apply_congr (h : e.key? = some k) {t u : Table} (htu : t.get? k = u.get? k) (now : Nat) :
    (t.apply e now).table.get? k = (u.apply e now).table.get? k ∧
      (t.apply e now).changed = (u.apply e now).changed := by
  cases hr : e.mapping.route with
  | error why =>
    obtain ⟨ht, htc⟩ := apply_of_error hr t now
    obtain ⟨hu, huc⟩ := apply_of_error hr u now
    rw [ht, htc, hu, huc]
    exact ⟨htu, rfl⟩
  | ok route =>
    obtain ⟨k', s⟩ := route
    obtain rfl := Option.some.inj ((Event.key?_eq_of_route hr).symm.trans h)
    have hentry : t.entry k' = u.entry k' := by rw [entry, entry, htu]
    obtain ⟨ht, htc⟩ := apply_of_route hr t now
    obtain ⟨hu, huc⟩ := apply_of_route hr u now
    rw [ht, htc, hu, huc, hentry, get?_store, get?_store, if_pos rfl, if_pos rfl]
    exact ⟨rfl, rfl⟩

/-- A key sees its own events and no others. -/
theorem follow_ofKey (k : Key) (es : List TimedEvent) {t u : Table} (h : t.get? k = u.get? k) :
    (t.follow es).get? k = (u.follow (ofKey k es)).get? k ∧
      reports k t es = reports k u (ofKey k es) := by
  induction es generalizing t u with
  | nil => exact ⟨h, rfl⟩
  | cons e es ih =>
    by_cases hk : e.1.key? = some k
    · obtain ⟨hget, hchanged⟩ := apply_congr hk h e.2
      obtain ⟨hfollow, hreports⟩ := ih hget
      rw [ofKey_cons_of_eq hk, follow_cons, follow_cons, reports, reports]
      simp only [if_pos hk]
      exact ⟨hfollow, by rw [hchanged, hreports]⟩
    · have hget : (t.apply e.1 e.2).table.get? k = u.get? k := (get?_apply_of_ne hk t e.2).trans h
      obtain ⟨hfollow, hreports⟩ := ih hget
      rw [ofKey_cons_of_ne hk, follow_cons, reports]
      simp only [if_neg hk]
      exact ⟨hfollow, hreports⟩

/-- Events that come in the same order for each key make the same table, whatever their order is
across keys, and what is reported of those of a key is the same. -/
theorem follow_eq_of_ofKey_eq (t : Table) {es es' : List TimedEvent}
    (h : ∀ k, ofKey k es = ofKey k es') :
    t.follow es = t.follow es' ∧ ∀ k, reports k t es = reports k t es' := by
  constructor
  · refine ext_get? fun k => ?_
    rw [(follow_ofKey k es rfl).1, (follow_ofKey k es' rfl).1, h k]
  · intro k
    rw [(follow_ofKey k es rfl).2, (follow_ofKey k es' rfl).2, h k]

/-- Records that are new, repeated, outdated, withdrawn and without an address, on two ports. -/
theorem follow_eq_of_two_orders :
    ∃ es es' : List TimedEvent, es ≠ es' ∧ (∀ k, ofKey k es = ofKey k es') ∧
      empty.follow es = empty.follow es' ∧
      reports ⟨80, ""⟩ empty es = [true, false, false, true] ∧
      reports ⟨80, ""⟩ empty es' = [true, false, false, true] ∧
      reports ⟨90, ""⟩ empty es' = [true, false, true] := by
  let event (action : Action) (port : UInt32) (address : String) (index : UInt32) (now : Nat) :
      TimedEvent := (⟨action, .bare port address 8080 ⟨"a", index⟩⟩, now)
  let added := event .upsert 80 "10.0.0.1" 2 0
  let repeated := event .upsert 80 "10.0.0.1" 2 5
  let outdated := event .delete 80 "10.0.0.1" 1 6
  let gone := event .delete 80 "10.0.0.1" 2 7
  let first := event .upsert 90 "10.0.0.2" 1 1
  let nowhere := event .upsert 90 "" 1 2
  let second := event .upsert 90 "10.0.0.3" 1 3
  let portless := event .upsert 0 "10.0.0.4" 1 4
  let es := [added, first, repeated, nowhere, portless, outdated, second, gone]
  let es' := [first, nowhere, added, second, repeated, outdated, gone]
  have h : ∀ k, ofKey k es = ofKey k es' := by
    intro k
    have hkeys : ∀ e ∈ es ++ es', e.1.key? = some ⟨80, ""⟩ ∨ e.1.key? = some ⟨90, ""⟩ ∨
        e.1.key? = none := by decide +kernel
    by_cases h80 : k = ⟨80, ""⟩
    · subst h80
      decide +kernel
    by_cases h90 : k = ⟨90, ""⟩
    · subst h90
      decide +kernel
    have hnone : ∀ l ⊆ es ++ es', ofKey k l = [] := by
      intro l hl
      refine List.filter_eq_nil_iff.2 fun e he => ?_
      rcases hkeys e (hl he) with hkey | hkey | hkey <;>
        simp [hkey, Ne.symm h80, Ne.symm h90]
    rw [hnone es (List.subset_append_left _ _), hnone es' (List.subset_append_right _ _)]
  obtain ⟨htable, hreports⟩ := empty.follow_eq_of_ofKey_eq h
  have hreport : reports ⟨80, ""⟩ empty es = [true, false, false, true] := by decide +kernel
  exact ⟨es, es', by decide +kernel, h, htable, hreport, (hreports _).symm.trans hreport,
    by decide +kernel⟩

end Table
end RouteSync
