import RouteSync.Proofs.Table.Exact

/-! What events and listings make of a sound table, endpoint by endpoint. -/
namespace RouteSync

theorem port?_ne_zero {n : UInt32} {p : UInt16} (h : port? n = some p) : p ≠ 0 := by
  unfold port? at h
  split at h
  · rename_i hn
    obtain rfl := Option.some.inj h
    intro h0
    have hz := congrArg UInt16.toNat h0
    have hlt : n.toNat < 65536 := UInt32.lt_iff_toNat_lt.1 hn.2
    simp only [UInt32.toNat_toUInt16, UInt16.toNat_zero] at hz
    exact hn.1 (UInt32.toNat_inj.1 (by simpa using (by omega : n.toNat = 0)))
  · cases h

namespace Mapping

theorem route_eq_ok_iff {m : Mapping} {k : Key} {s : Server} :
    m.route = .ok (k, s) ↔ m.key = .ok k ∧ m.server = .ok s := by
  unfold route
  cases m.key <;> cases m.server <;> simp [bind, Except.bind, pure, Except.pure]

theorem valid_of_route {m : Mapping} {k : Key} {s : Server} (h : m.route = .ok (k, s)) :
    k.valid = true := by
  have hk := (route_eq_ok_iff.1 h).1
  unfold key at hk
  split at hk
  · rename_i port hport
    obtain rfl := Except.ok.inj hk
    simpa [Key.valid] using port?_ne_zero hport
  · cases hk

/-- A mapping that leaves out whatever may be left out. -/
def bare (port : UInt32) (address : String) (serverPort : UInt32) (tag : Tag) :
    Mapping where
  routerGroup := "default-tcp"
  port := port
  address := address
  serverPort := serverPort
  tlsPort := none
  instanceName := none
  host := none
  tag := tag
  ttl := none

theorem route_bare {port serverPort : UInt32} {q r : UInt16} {address : String}
    (hport : port? port = some q) (hserver : port? serverPort = some r)
    (hblank : Text.allBlank address = false) (haddress : Net.isAddress address = true)
    (tag : Tag) :
    (bare port address serverPort tag).route =
      .ok (⟨q, ""⟩, { Server.plain address r with tag }) := by
  rw [route_eq_ok_iff]
  constructor
  · simp [key, bare, hport]
  · have hinstance : Net.isInstanceName "" = true := by decide
    simp [server, bare, hserver, hblank, haddress, tlsPortOrUnstated, hinstance]
    rfl

end Mapping

/-- The server that an event names at an endpoint of a key. -/
def Event.serverAt (e : Event) (k : Key) (p : String × UInt16) : Option Server :=
  match e.mapping.route with
  | .error _ => none
  | .ok (k', s) => if k' = k ∧ s.endpoint = p then some s else none

theorem Event.serverAt_eq_some_iff {e : Event} {k : Key} {p : String × UInt16} {s : Server} :
    e.serverAt k p = some s ↔ e.mapping.route = .ok (k, s) ∧ s.endpoint = p := by
  unfold serverAt
  cases e.mapping.route with
  | error why => simp
  | ok route =>
    obtain ⟨k', s'⟩ := route
    simp only [Option.ite_none_right_eq_some, Option.some.injEq, Except.ok.injEq, Prod.mk.injEq]
    constructor
    · rintro ⟨⟨rfl, rfl⟩, rfl⟩
      exact ⟨⟨rfl, rfl⟩, rfl⟩
    · rintro ⟨⟨rfl, rfl⟩, rfl⟩
      exact ⟨⟨rfl, rfl⟩, rfl⟩

/-- What an event makes of the server at an endpoint of a key. -/
def Event.revise (e : Event) (k : Key) (p : String × UInt16) (stored : Option Server) :
    Option Server :=
  match e.serverAt k p, e.action with
  | none, _ => stored
  | some s, .upsert => some (s.newest stored)
  | some s, .delete => s.withdraw stored

/-- What an action does to the servers of a key. -/
def Action.edit (a : Action) (s : Server) (now : Nat) (e : Entry) : Entry.Edit :=
  match a with
  | .upsert => e.upsert now s
  | .delete => e.delete s

namespace Table

/-- The server at an endpoint of a key. -/
def server? (t : Table) (k : Key) (p : String × UInt16) : Option Server := (t.entry k).server? p

/-- An event that describes no route does nothing, and any other is one change of the table. -/
theorem apply_cases (t : Table) (e : Event) (now : Nat) :
    (∃ why log, e.mapping.route = .error why ∧ t.apply e now = t.unchanged log) ∨
    (∃ k s, e.mapping.route = .ok (k, s) ∧ e.action = .upsert ∧
      t.upsert k s now = .ok (t.apply e now)) ∨
    (∃ k s, e.mapping.route = .ok (k, s) ∧ e.action = .delete ∧
      t.delete k s = .ok (t.apply e now)) := by
  unfold apply
  cases hr : e.mapping.route with
  | error why => exact .inl ⟨why, _, rfl, rfl⟩
  | ok route =>
    obtain ⟨k, s⟩ := route
    have hk := Mapping.valid_of_route hr
    cases ha : e.action with
    | upsert =>
      have hc : t.upsert k s now = .ok _ := upsert_eq_ok_iff.2 ⟨hk, rfl⟩
      exact .inr (.inl ⟨k, s, rfl, rfl, by simp only [hc]⟩)
    | delete =>
      have hc : t.delete k s = .ok _ := delete_eq_ok_iff.2 ⟨hk, rfl⟩
      exact .inr (.inr ⟨k, s, rfl, rfl, by simp only [hc]⟩)

/-- All that an event looks at and touches is the entry of its key. -/
theorem apply_of_route {e : Event} {k : Key} {s : Server} (h : e.mapping.route = .ok (k, s))
    (t : Table) (now : Nat) :
    (t.apply e now).table = t.store k (e.action.edit s now (t.entry k)).entry ∧
      (t.apply e now).changed = (e.action.edit s now (t.entry k)).changed := by
  obtain ⟨why, log, hr, -⟩ | ⟨k', s', hr, ha, hc⟩ | ⟨k', s', hr, ha, hc⟩ := t.apply_cases e now
  · rw [h] at hr
    cases hr
  · obtain ⟨rfl, rfl⟩ := Prod.mk.inj (Except.ok.inj (h.symm.trans hr))
    rw [(upsert_eq_ok_iff.1 hc).2, ha]
    exact ⟨rfl, rfl⟩
  · obtain ⟨rfl, rfl⟩ := Prod.mk.inj (Except.ok.inj (h.symm.trans hr))
    rw [(delete_eq_ok_iff.1 hc).2, ha]
    exact ⟨rfl, rfl⟩

theorem apply_of_error {e : Event} {why : MappingError} (h : e.mapping.route = .error why)
    (t : Table) (now : Nat) :
    (t.apply e now).table = t ∧ (t.apply e now).changed = false := by
  rw [apply, h]
  exact ⟨rfl, rfl⟩

theorem entry_apply (t : Table) (e : Event) (now : Nat) (k : Key) :
    (t.apply e now).table.entry k = t.entry k ∨
      ∃ s, e.mapping.route = .ok (k, s) ∧
        (t.apply e now).table.entry k = (e.action.edit s now (t.entry k)).entry := by
  cases hr : e.mapping.route with
  | error why =>
    rw [(apply_of_error hr t now).1]
    exact .inl rfl
  | ok route =>
    obtain ⟨k', s⟩ := route
    rw [(apply_of_route hr t now).1, entry_store]
    by_cases hk : k = k'
    · subst hk
      exact .inr ⟨s, rfl, if_pos rfl⟩
    · exact .inl (if_neg hk)

variable {t : Table}

theorem Sound.honest_apply (h : t.Sound) (e : Event) (now : Nat) :
    t.Honest (t.apply e now) := by
  obtain ⟨-, log, -, heq⟩ | ⟨k, s, -, -, hc⟩ | ⟨k, s, -, -, hc⟩ := t.apply_cases e now
  · rw [heq]
    exact honest_unchanged h log
  · exact (h.exact_upsert hc).honest (h.upsert hc)
  · exact (h.exact_delete hc).honest (h.delete hc)

theorem Sound.honest_prune (h : t.Sound) (now : Nat) : t.Honest (t.prune now) :=
  (h.exact_prune now).honest (h.prune now)

theorem Sound.honest_replay (h : t.Sound) (es : List Event) (now : Nat) :
    t.Honest (t.replay es now) :=
  (honest_unchanged h []).foldl (fun e _ hu => hu.honest_apply e now) es

theorem Sound.honest_setListed (h : t.Sound) (now : Nat) (route : Key × List Server) :
    t.Honest (setListed now route t) := by
  unfold setListed
  split
  · rename_i c hc
    have hd := Entry.distinct_ofServers route.2 now
    exact (h.exact_set hd hc).honest (h.set hd hc)
  · exact honest_unchanged h _

theorem Sound.honest_merge (h : t.Sound) (ms : List Mapping) (now : Nat) :
    t.Honest (t.merge ms now) :=
  (honest_unchanged h _).foldl (fun route _ hu => hu.honest_setListed now route) _

theorem Sound.server?_apply (h : t.Sound) (e : Event) (now : Nat) (k : Key)
    (p : String × UInt16) :
    (t.apply e now).table.server? k p = e.revise k p (t.server? k p) := by
  unfold Event.revise Event.serverAt server?
  obtain ⟨why, log, hr, heq⟩ | ⟨k', s, hr, ha, hc⟩ | ⟨k', s, hr, ha, hc⟩ := t.apply_cases e now
  · rw [hr, heq]
    rfl
  · obtain ⟨-, heq⟩ := upsert_eq_ok_iff.1 hc
    rw [hr, ha, heq, entry_store]
    by_cases hk : k = k'
    · subst hk
      by_cases hp : s.endpoint = p <;> simp [Entry.server?_upsert, hp]
    · simp [hk, Ne.symm hk]
  · obtain ⟨-, heq⟩ := delete_eq_ok_iff.1 hc
    rw [hr, ha, heq, entry_store]
    by_cases hk : k = k'
    · subst hk
      by_cases hp : s.endpoint = p <;> simp [(h.distinct_entry k).server?_delete, hp]
    · simp [hk, Ne.symm hk]

theorem Sound.server?_replay (h : t.Sound) (es : List Event) (now : Nat) (k : Key)
    (p : String × UInt16) :
    (t.replay es now).table.server? k p =
      es.foldl (fun stored e => e.revise k p stored) (t.server? k p) := by
  suffices hc : ∀ c : Change, c.table.Sound →
      (es.foldl (fun change e => Change.then change fun t => t.apply e now) c).table.server? k p =
        es.foldl (fun stored e => e.revise k p stored) (c.table.server? k p) from
    hc (t.unchanged []) h
  induction es with
  | nil => exact fun _ _ => rfl
  | cons e es ih =>
    intro c hc
    have hnext : (Change.then c fun t => t.apply e now).table.Sound :=
      (hc.honest_apply e now).sound
    rw [List.foldl_cons, List.foldl_cons, ih _ hnext, ← hc.server?_apply e now]
    rfl

end Table
end RouteSync
