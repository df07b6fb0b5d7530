import RouteSync.Proofs.Reconcile.Moves
import RouteSync.Proofs.Table.Named

/-! A request is refused as a whole, or puts the servers of each port in place of those it had. -/
namespace RouteSync

/-- Different servers have different endpoints. -/
def Server.Apart (ss : List Server) : Prop :=
  ∀ a ∈ ss, ∀ b ∈ ss, a.endpoint = b.endpoint → a = b

namespace Entry

theorem eq_nil_iff {e : Entry} {ss : List Server} (h : ∀ s, s ∈ e.servers ↔ s ∈ ss) :
    e = [] ↔ ss = [] := by
  have hservers : e.servers = [] ↔ e = [] := List.map_eq_nil_iff
  simp only [← hservers, List.eq_nil_iff_forall_not_mem, h]

variable {ss : List Server} (hapart : Server.Apart ss)
include hapart

/-- Where endpoints tell the servers apart, none of them is lost for another's newer record. -/
theorem mem_servers_ofServers (now : Nat) (s : Server) :
    s ∈ (ofServers ss now).servers ↔ s ∈ ss := by
  refine ⟨mem_of_ofServers, fun hs => ?_⟩
  cases hkept : (ofServers ss now).server? s.endpoint with
  | none =>
    rw [server?_ofServers, Server.latest_eq_none_iff] at hkept
    exact absurd rfl (hkept.2 s hs)
  | some kept =>
    have hmem := mem_servers_of_server? hkept
    have heq : kept = s := hapart kept (mem_of_ofServers hmem) s hs (endpoint_of_server? hkept)
    exact heq ▸ hmem

theorem mem_servers_orderedLike_ofServers (now : Nat) (old : Entry) (s : Server) :
    s ∈ ((ofServers ss now).orderedLike old).servers ↔ s ∈ ss := by
  rw [← mem_servers_ofServers hapart now]
  simp only [servers, List.mem_map, mem_orderedLike (distinct_ofServers ss now)]

end Entry

namespace Table

/-- The servers of a key are these and no others, and without any there is no such key. -/
structure Holds (t : Table) (k : Key) (ss : List Server) : Prop where
  absent_iff : t.get? k = none ↔ ss = []
  mem_iff : ∀ s, s ∈ (t.entry k).servers ↔ s ∈ ss

variable {t u : Table} {k : Key} {ss : List Server} {now : Nat} {c : Change}

theorem Holds.of_get? (h : t.Holds k ss) (heq : u.get? k = t.get? k) : u.Holds k ss := by
  obtain ⟨habsent, hmem⟩ := h
  rw [entry, ← heq] at hmem
  exact ⟨heq ▸ habsent, hmem⟩

theorem holds_set (hc : t.set k (Entry.ofServers ss now) = .ok c)
    (hapart : Server.Apart ss) : c.table.Holds k ss := by
  obtain ⟨-, rfl⟩ := set_eq_ok_iff.1 hc
  have hmem := Entry.mem_servers_orderedLike_ofServers hapart now (t.entry k)
  constructor
  · rw [get?_store, if_pos rfl, ← Entry.eq_nil_iff hmem]
    split <;> simp [*]
  · rw [entry_store, if_pos rfl]
    exact hmem

end Table

namespace Reconciler

variable {c : Change} {now : Nat} {k : Key} {ss : List Server}
  {routes earlier later : List (Key × List Server)}

/-- Of several routes of one key the last decides. -/
theorem holds_setAll (hv : ∀ r ∈ earlier ++ (k, ss) :: later, r.1.valid = true)
    (hlast : ∀ r ∈ later, r.1 ≠ k) (hapart : Server.Apart ss) :
    (setAll now c (earlier ++ (k, ss) :: later)).1.table.Holds k ss := by
  induction earlier generalizing c with
  | nil =>
    have hset : c.table.set k (Entry.ofServers ss now) = .ok _ :=
      Table.set_eq_ok_iff.2 ⟨hv (k, ss) List.mem_cons_self, rfl⟩
    rw [List.nil_append, setAll, hset]
    exact (Table.holds_set hset hapart).of_get? (get?_setAll_of_ne hlast)
  | cons route earlier ih =>
    have hset : c.table.set route.1 (Entry.ofServers route.2 now) = .ok _ :=
      Table.set_eq_ok_iff.2 ⟨hv route List.mem_cons_self, rfl⟩
    rw [List.cons_append, setAll, hset]
    exact ih fun r hr => hv r (List.mem_cons_of_mem _ hr)

variable {r : Reconciler} {outcome : Outcome}

theorem table_update : (r.update routes now outcome).after.table =
    (setAll now (r.table.unchanged []) routes).1.table := by
  rw [after_update, performed_singleton]
  rfl

/-- A replacement of valid keys calls on the proxy once or not at all, and fails with that call. -/
theorem update_cases (r : Reconciler) (hv : ∀ x ∈ routes, x.1.valid = true) (now : Nat)
    (outcome : Outcome) :
    ((r.update routes now outcome).answer = .ok false ∧
      configured (r.update routes now outcome).acts = []) ∨
    ((r.update routes now outcome).answer = .ok true ∧
      (configured (r.update routes now outcome).acts).length = 1 ∧ outcome = .ok ()) ∨
    ∃ what, (r.update routes now outcome).answer = .error (.configure what) ∧
      (configured (r.update routes now outcome).acts).length = 1 ∧ outcome = .error what := by
  have hfault := setAll_fault now (r.table.unchanged []) hv
  have hcalled : ∀ (log : List Log.Record) (s : Snapshot),
      (configured (Act.logs log ++ [.configure s])).length = 1 := by
    intro log s
    rw [configured_append, configured_logs]
    rfl
  unfold update
  cases hs : setAll now (r.table.unchanged []) routes with
  | mk c fault =>
    rw [hs] at hfault
    obtain rfl : fault = none := hfault
    dsimp only
    split
    · cases outcome with
      | ok taken => exact .inr (.inl ⟨rfl, hcalled .., rfl⟩)
      | error what => exact .inr (.inr ⟨what, rfl, hcalled .., rfl⟩)
    · exact .inl ⟨rfl, configured_logs _⟩

end Reconciler

namespace Reservation

variable {ports : Ports} {r : Reconciler} {q : Http.Request} {now : Nat} {outcome : Outcome}

theorem Binding.apart_servers (b : Binding) : Server.Apart b.servers := by
  intro s hs s' hs' hend
  obtain ⟨h, -, rfl⟩ := List.mem_map.1 hs
  obtain ⟨h', -, rfl⟩ := List.mem_map.1 hs'
  obtain ⟨haddress, hport⟩ := Prod.mk.inj hend
  exact congrArg₂ Server.plain haddress hport

/-- What bindings make of a table: the last one of each port decides on the servers of that port,
and all other keys are as they were. -/
structure Replaced (bs : List Binding) (t u : Table) : Prop where
  last : ∀ earlier b later, bs = earlier ++ b :: later → (∀ c ∈ later, c.port ≠ b.port) →
    u.Holds b.key b.servers
  other : ∀ k, (∀ b ∈ bs, b.key ≠ k) → u.get? k = t.get? k

theorem replaced_update (r : Reconciler) {bs : List Binding}
    (hok : ∀ b ∈ bs, b.Acceptable ports) (now : Nat) (outcome : Outcome) :
    Replaced bs r.table
      (r.update (bs.map fun b => (b.key, b.servers)) now outcome).after.table := by
  have hv : ∀ x ∈ bs.map fun b => (b.key, b.servers), x.1.valid = true :=
    valid_of_routes (routes_eq_ok_iff.2 ⟨hok, rfl⟩)
  rw [Reconciler.table_update]
  constructor
  · rintro earlier b later rfl hlast
    rw [List.map_append, List.map_cons] at hv ⊢
    refine Reconciler.holds_setAll hv (fun x hx => ?_) b.apart_servers
    obtain ⟨c, hc, rfl⟩ := List.mem_map.1 hx
    have hc' : c.Acceptable ports :=
      hok c (List.mem_append_right _ (List.mem_cons_of_mem _ hc))
    have hb : b.Acceptable ports := hok b (List.mem_append_right _ List.mem_cons_self)
    exact fun hkey => hlast c hc (hc'.port_eq hb hkey)
  · intro k hk
    refine Reconciler.get?_setAll_of_ne fun route hroute => ?_
    obtain ⟨b, hb, rfl⟩ := List.mem_map.1 hroute
    exact hk b hb

theorem configured_apply (r : Reconciler) (rs : List (Key × List Server)) (now : Nat)
    (outcome : Outcome) :
    configured (apply r rs now outcome).acts = configured (r.update rs now outcome).acts := by
  unfold apply
  dsimp only
  split <;> exact (configured_append _ _).trans (List.append_nil _)

/-- Where all keys are valid, a request fails only with the one call of the proxy. -/
theorem status_apply (r : Reconciler) {rs : List (Key × List Server)}
    (hv : ∀ x ∈ rs, x.1.valid = true) (now : Nat) (outcome : Outcome) :
    ((apply r rs now outcome).response.status = 200 ∨
      (apply r rs now outcome).response.status = 500) ∧
    (configured (apply r rs now outcome).acts).length ≤ 1 ∧
    ((apply r rs now outcome).response.status = 500 ↔
      configured (apply r rs now outcome).acts ≠ [] ∧ outcome ≠ .ok ()) := by
  rw [configured_apply]
  obtain ⟨hanswer, hacts⟩ | ⟨hanswer, hacts, htaken⟩ | ⟨what, hanswer, hacts, hrefused⟩ :=
    r.update_cases hv now outcome
  · have hstatus : (apply r rs now outcome).response.status = 200 := by
      simp only [apply, hanswer]
    rw [hstatus, hacts]
    exact ⟨.inl rfl, Nat.zero_le 1, by simp⟩
  · have hstatus : (apply r rs now outcome).response.status = 200 := by
      simp only [apply, hanswer]
    rw [hstatus, hacts, htaken]
    exact ⟨.inl rfl, Nat.le_refl 1, by simp⟩
  · have hstatus : (apply r rs now outcome).response.status = 500 := by
      simp only [apply, hanswer, status]
    have hcalled := List.ne_nil_of_length_pos (hacts ▸ Nat.one_pos)
    rw [hstatus, hacts, hrefused]
    exact ⟨.inr rfl, Nat.le_refl 1, fun _ => ⟨hrefused ▸ hcalled, nofun⟩, fun _ => rfl⟩

/-- A request is refused as a whole if any part of it is faulty. Otherwise all of it is put in
force, and it fails if the proxy, which is called once or not at all, refuses the table. -/
theorem serve_replaces (hpath : q.path = path) (hmethod : q.method = "POST") {served : Served}
    (hserved : serve ports r q now outcome = served) :
    (served.response.status = 400 ∧ served.after = r ∧ configured served.acts = [] ∧
      ¬ ∃ bs, requested q = .ok bs ∧ ∀ b ∈ bs, b.Acceptable ports) ∨
    ((served.response.status = 200 ∨ served.response.status = 500) ∧
      (∃ bs, requested q = .ok bs ∧ (∀ b ∈ bs, b.Acceptable ports) ∧
        Replaced bs r.table served.after.table) ∧
      (configured served.acts).length ≤ 1 ∧
      (served.response.status = 500 ↔ configured served.acts ≠ [] ∧ outcome ≠ .ok ())) := by
  rw [serve, if_neg (not_not.2 hpath), if_neg (not_not.2 hmethod)] at hserved
  cases hasked : requested q >>= routes ports with
  | error why =>
    rw [hasked] at hserved
    subst hserved
    refine .inl ⟨rfl, rfl, rfl, ?_⟩
    rintro ⟨bs, hbs, hok⟩
    have hroutes := bind_eq_ok_iff.2 ⟨bs, hbs, routes_eq_ok_iff.2 ⟨hok, rfl⟩⟩
    rw [hasked] at hroutes
    cases hroutes
  | ok rs =>
    rw [hasked] at hserved
    subst hserved
    obtain ⟨bs, hbs, hroutes⟩ := bind_eq_ok_iff.1 hasked
    have hstatus := status_apply r (valid_of_routes hroutes) now outcome
    obtain ⟨hok, rfl⟩ := routes_eq_ok_iff.1 hroutes
    have hreplaced := replaced_update r hok now outcome
    rw [← after_apply] at hreplaced
    exact .inr ⟨hstatus.1, ⟨bs, hbs, hok, hreplaced⟩, hstatus.2⟩

/-- A client that names one port twice, the second time with one server twice, and another port
without servers. -/
def repeating : Http.Request where
  method := "POST"
  target := path
  contentType := some "application/json"
  body := ("[\x7b\"external_port\":2000,\"backends\":" ++
    "[\x7b\"backend_ip\":\"10.0.0.1\",\"backend_port\":80\x7d]\x7d," ++
    "\x7b\"external_port\":2001\x7d," ++
    "\x7b\"external_port\":2000,\"backends\":" ++
    "[\x7b\"backend_ip\":\"10.0.0.2\",\"backend_port\":80\x7d," ++
    "\x7b\"backend_ip\":\"10.0.0.2\",\"backend_port\":80\x7d]\x7d]").toUTF8.toList

/-- The proxy refuses the table, and the request is put in force all the same. -/
theorem repeating_replaces :
    ∃ (r : Reconciler) (served : Served) (bs : List Binding),
      r.table.snapshot.entries.map (·.1) = [⟨2000, ""⟩, ⟨2000, "a.example"⟩, ⟨2001, ""⟩] ∧
      serve .any r repeating 1 (.error "disk full") = served ∧ served.response.status = 500 ∧
      requested repeating = .ok bs ∧ Replaced bs r.table served.after.table ∧
      served.after.table.snapshot.entries =
        [(⟨2000, ""⟩, [Server.plain "10.0.0.2" 80]),
         (⟨2000, "a.example"⟩, [⟨"10.0.0.4", 80, 0, "", ⟨"a", 1⟩, 0⟩])] := by
  let put (r : Reconciler) (m : Mapping) : Reconciler := (r.handle ⟨.upsert, m⟩ 0 (.ok ())).after
  let r := put (put (put .initial (.bare 2000 "10.0.0.3" 80 ⟨"a", 1⟩))
    { Mapping.bare 2000 "10.0.0.4" 80 ⟨"a", 1⟩ with host := some "a.example" })
    (.bare 2001 "10.0.0.5" 80 ⟨"a", 1⟩)
  have hserved : (serve .any r repeating 1 (.error "disk full")).response.status = 500 ∧
      (serve .any r repeating 1 (.error "disk full")).after.table.snapshot.entries =
        [(⟨2000, ""⟩, [Server.plain "10.0.0.2" 80]),
         (⟨2000, "a.example"⟩, [⟨"10.0.0.4", 80, 0, "", ⟨"a", 1⟩, 0⟩])] := by
    decide +kernel
  rcases serve_replaces (by decide +kernel) rfl
    (rfl : serve .any r repeating 1 (.error "disk full") = _) with
    ⟨hstatus, -⟩ | ⟨-, ⟨bs, hbs, -, hreplaced⟩, -⟩
  · rw [hserved.1] at hstatus
    cases hstatus
  · exact ⟨r, _, bs, by decide +kernel, rfl, hserved.1, hbs, hreplaced, hserved.2⟩

end Reservation
end RouteSync
