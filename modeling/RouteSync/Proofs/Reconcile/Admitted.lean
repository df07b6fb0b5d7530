import RouteSync.Proofs.Reconcile.Moves
import RouteSync.Proofs.Table.Named

/-! Every server in the table of a run was named by a mapping or a request that passed its checks,
and so it passes them itself. -/
namespace RouteSync

/-- What mappings and requests are checked for before their servers reach the table. -/
structure Server.Admitted (s : Server) : Prop where
  address : Net.isAddress s.address
  port : s.port ≠ 0
  tlsPort : s.tlsPort ≤ 65535
  instanceName : Net.isInstanceName s.instanceName

theorem Server.admitted_plain {address : String} {port : UInt16} (haddress : Net.isAddress address)
    (hport : port ≠ 0) : (Server.plain address port).Admitted where
  address := haddress
  port := hport
  tlsPort := by
    change Server.tlsUnstated ≤ 65535
    decide
  instanceName := by
    change Net.isInstanceName ""
    decide

theorem Mapping.admitted_of_route {m : Mapping} {k : Key} {s : Server}
    (h : m.route = .ok (k, s)) : s.Admitted := by
  have hs := (route_eq_ok_iff.1 h).2
  unfold server at hs
  split at hs
  · cases hs
  split at hs
  · cases hs
  rename_i haddress
  split at hs
  · cases hs
  rename_i port hport
  split at hs
  · cases hs
  rename_i htls
  split at hs
  · cases hs
  rename_i hinstance
  obtain rfl := Except.ok.inj hs
  have hmost : m.tlsPortOrUnstated ≤ 65535 := Int32.not_lt.1 fun hlt => htls (.inr hlt)
  exact ⟨by simpa using haddress, port?_ne_zero hport, hmost, by simpa using hinstance⟩

namespace Reservation

theorem Binding.Acceptable.admitted {ports : Ports} {b : Binding} (h : b.Acceptable ports) :
    ∀ s ∈ b.servers, s.Admitted := by
  intro s hs
  obtain ⟨host, hhost, rfl⟩ := List.mem_map.1 hs
  have hok := h.hosts host hhost
  exact Server.admitted_plain hok.address (port?_ne_zero (port?_eq_some_iff.2 ⟨hok.port, rfl⟩))

theorem admitted_of_asked {ports : Ports} {q : Http.Request} {rs : List (Key × List Server)}
    (h : asked? ports q = some rs) : ∀ r ∈ rs, ∀ s ∈ r.2, s.Admitted := by
  unfold asked? at h
  split at h
  · cases hroutes : requested q >>= routes ports with
    | error why =>
      rw [hroutes] at h
      cases h
    | ok rs' =>
      rw [hroutes] at h
      obtain rfl : rs' = rs := Option.some.inj h
      obtain ⟨bs, -, hbs⟩ := bind_eq_ok_iff.1 hroutes
      obtain ⟨hok, rfl⟩ := routes_eq_ok_iff.1 hbs
      intro r hr
      obtain ⟨b, hb, rfl⟩ := List.mem_map.1 hr
      exact (hok b hb).admitted
  · cases h

end Reservation

/-- The servers that a deed names for a key. -/
def Deed.Names (k : Key) (s : Server) : Deed → Prop
  | .event e _ => e.mapping.route = .ok (k, s)
  | .listing (.ok ms) _ => ∃ m ∈ ms, m.route = .ok (k, s)
  | .replace routes _ => ∃ r ∈ routes, r.1 = k ∧ s ∈ r.2
  | .listing (.error _) _ | .prune _ | .note _ => False

section Named

variable {t : Table} {c : Change} {now : Nat} {k : Key} {s : Server}

theorem Reconciler.mem_servers_of_setAll {routes : List (Key × List Server)}
    (h : s ∈ ((setAll now c routes).1.table.entry k).servers) :
    s ∈ (c.table.entry k).servers ∨ ∃ r ∈ routes, r.1 = k ∧ s ∈ r.2 := by
  induction routes generalizing c with
  | nil => exact .inl h
  | cons route routes ih =>
    unfold setAll at h
    split at h
    · rename_i next hc
      rcases ih h with hs | ⟨r, hr, hrk⟩
      · exact (Table.mem_servers_of_set hc hs).imp_right fun hroute =>
          ⟨route, List.mem_cons_self, hroute⟩
      · exact .inr ⟨r, List.mem_cons_of_mem _ hr, hrk⟩
    · exact .inl h

theorem Deed.mem_servers_of_change {d : Deed} (h : s ∈ ((d.change t).table.entry k).servers) :
    s ∈ (t.entry k).servers ∨ d.Names k s := by
  cases d with
  | event e now => exact Table.mem_servers_of_apply h
  | listing answer now =>
    cases answer with
    | ok ms => exact Table.mem_servers_of_merge h
    | error what => exact .inl h
  | prune now => exact .inl (Table.mem_servers_of_prune h)
  | replace routes now => exact Reconciler.mem_servers_of_setAll h
  | note record => exact .inl h

theorem mem_servers_of_performed {deeds : List Deed}
    (h : s ∈ ((performed t deeds).table.entry k).servers) :
    s ∈ (t.entry k).servers ∨ ∃ d ∈ deeds, d.Names k s := by
  induction deeds generalizing t with
  | nil => exact .inl h
  | cons d deeds ih =>
    rw [performed_cons] at h
    rcases ih h with hs | ⟨d', hd', hnames⟩
    · exact (Deed.mem_servers_of_change hs).imp_right fun hnames =>
        ⟨d, List.mem_cons_self, hnames⟩
    · exact .inr ⟨d', List.mem_cons_of_mem _ hd', hnames⟩

end Named

namespace Session

variable {g : Session} {now : Nat} {k : Key} {s : Server} {d : Deed}

/-- Only a request names servers that no mapping describes. -/
theorem admitted_of_names (hnames : d.Names k s)
    (hreplace : ∀ routes now, d = .replace routes now → ∀ r ∈ routes, ∀ s ∈ r.2, s.Admitted) :
    s.Admitted := by
  cases d with
  | event e now => exact Mapping.admitted_of_route hnames
  | listing answer now =>
    cases answer with
    | ok ms =>
      obtain ⟨m, -, hroute⟩ := hnames
      exact m.admitted_of_route hroute
    | error what => cases hnames
  | prune now => cases hnames
  | replace routes now =>
    obtain ⟨r, hr, -, hs⟩ := hnames
    exact hreplace routes now rfl r hr s hs
  | note record => cases hnames

theorem Move.admitted_of_replace {move : Move} {routes : List (Key × List Server)} {time : Nat}
    (hd : .replace routes time ∈ move.deeds g now) : ∀ r ∈ routes, ∀ s ∈ r.2, s.Admitted := by
  cases move with
  | event e outcome =>
    simp only [deeds, Reconciler.handleDeeds] at hd
    split at hd <;> cases List.mem_singleton.1 hd
  | prune outcome => cases List.mem_singleton.1 hd
  | serve ports q outcome =>
    cases hasked : Reservation.asked? ports q with
    | none => simp [deeds, hasked] at hd
    | some rs =>
      simp only [deeds, hasked, Option.map_some, Option.getD_some, List.mem_singleton,
        Deed.replace.injEq] at hd
      rw [hd.1]
      exact Reservation.admitted_of_asked hasked
  | sync => cases hd
  | advance index input =>
    cases hcall : g.syncs[index]? with
    | none => simp [deeds, hcall] at hd
    | some call =>
      simp only [deeds, hcall, Option.map_some, Option.getD_some, SyncCall.deeds] at hd
      split at hd
      · simp [Reconciler.finishDeeds] at hd
      · cases hd

/-- Every server of every run passes the checks of mappings and requests. -/
theorem Reached.admitted {acts : List Act} (h : Reached g acts)
    (hs : s ∈ (g.reconciler.table.entry k).servers) : s.Admitted := by
  induction h with
  | start => cases hs
  | step _ hstep ih =>
    rw [(effect_step hstep).table] at hs
    rcases mem_servers_of_performed hs with hs | ⟨d, hd, hnames⟩
    · exact ih hs
    · refine admitted_of_names hnames fun routes time hreplace => ?_
      rw [hreplace] at hd
      exact Move.admitted_of_replace hd

end Session
end RouteSync
