import RouteSync.Proofs.Proxy.Render
import RouteSync.Proofs.Reconcile.Admitted

/-! What is checked before a server reaches the table is enough for writing it: a server is left out
for want of TLS and for nothing else. -/
namespace RouteSync.Proxy

section Backends

/-- The backend stanzas of a rendering, in their order. -/
def Rendering.backends (r : Rendering) : List Backend := r.frontends.flatMap Frontend.backends

theorem backends_render (p : TlsPolicy) (s : Snapshot) :
    (p.render s).backends = (kept s).map p.backend := by
  have hgroups : (p.render s).backends = (byPort (kept s)).flatMap fun g => g.2.map p.backend := by
    unfold Rendering.backends TlsPolicy.render
    rw [List.flatMap_map]
  rw [hgroups, ← List.map_flatMap, flatMap_byPort]

variable {s : Snapshot} {k : Key} {servers : List Server}

theorem kept_of_key (hk : Servable k) (hget : s.get? k = some servers) (hne : servers ≠ []) :
    (kept s).filter (·.1 = k) = [(k, servers)] := by
  have hnodup : ((kept s).filter (·.1 = k)).Nodup := (s.nodup_entries.filter _).filter _
  refine List.perm_singleton.1 ((List.perm_ext_iff_of_nodup hnodup (List.nodup_singleton _)).2 ?_)
  rintro ⟨k', servers'⟩
  rw [List.mem_filter, mem_kept, List.mem_singleton, decide_eq_true_eq, Prod.mk.injEq]
  constructor
  · rintro ⟨⟨-, hget', -⟩, rfl⟩
    exact ⟨rfl, Option.some.inj (hget'.symm.trans hget)⟩
  · rintro ⟨rfl, rfl⟩
    exact ⟨⟨hk, hget, hne⟩, rfl⟩

/-- A key that is kept has one stanza. -/
theorem backends_of_key (p : TlsPolicy) (hk : Servable k) (hget : s.get? k = some servers)
    (hne : servers ≠ []) :
    (p.render s).backends.filter (·.key = k) = [p.backend (k, servers)] := by
  have hkey : (fun b : Backend => decide (b.key = k)) ∘ p.backend =
      fun e : Key × List Server => decide (e.1 = k) := rfl
  rw [backends_render, List.filter_map, hkey, kept_of_key hk hget hne, List.map_singleton]

theorem port_ne_zero_of_render {p : TlsPolicy} {f : Frontend} (hf : f ∈ (p.render s).frontends) :
    f.port ≠ 0 := by
  obtain ⟨g, hg, rfl⟩ := List.mem_map.1 hf
  obtain ⟨hne, hports⟩ := ofPort_byPort _ g hg
  obtain ⟨e, he⟩ := List.exists_mem_of_ne_nil _ hne
  have hport : e.1.port ≠ 0 := (mem_kept.1 (mem_of_byPort hg he)).1.1
  rw [hports e he] at hport
  exact hport

end Backends

theorem port_bounds {port : UInt16} (h : port ≠ 0) : 1 ≤ port.toNat ∧ port.toNat ≤ 65535 := by
  have hpos : port.toNat ≠ 0 := fun hzero => h (UInt16.toNat_inj.1 hzero)
  have hlt := port.toNat_lt
  omega

/-- A server to be spoken to over TLS, where TLS is off or there is no name to verify. -/
def TlsPolicy.Withholds (p : TlsPolicy) (s : Server) : Prop :=
  0 < s.tlsPort ∧ (p.enabled = false ∨ s.instanceName = "")

instance (p : TlsPolicy) (s : Server) : Decidable (p.Withholds s) :=
  inferInstanceAs (Decidable (_ ∧ _))

end RouteSync.Proxy

namespace RouteSync

open Proxy

namespace Server.Admitted

variable {s : Server}

theorem address_ne_empty (h : s.Admitted) : s.address ≠ "" := by
  intro hempty
  have haddress := h.address
  rw [hempty] at haddress
  exact absurd haddress (by decide)

/-- Of the checks for writing a server only those of TLS are left. -/
theorem passes_iff (h : s.Admitted) (p : TlsPolicy) : p.Passes s ↔ ¬ p.Withholds s := by
  constructor
  · rintro hp ⟨htls, hoff | hunset⟩
    · have henabled := (hp.tls htls).1
      rw [hoff] at henabled
      cases henabled
    · exact (hp.tls htls).2.1 hunset
  · intro hw
    refine ⟨⟨h.address_ne_empty, h.port⟩, h.address, fun htls => ?_⟩
    obtain ⟨henabled, hset⟩ := not_or.1 fun hmissing => hw ⟨htls, hmissing⟩
    exact ⟨by simpa using henabled, hset, h.instanceName⟩

theorem port_lineOf (h : s.Admitted) (p : TlsPolicy) :
    1 ≤ (p.lineOf s).port ∧ (p.lineOf s).port ≤ 65535 := by
  unfold TlsPolicy.lineOf
  split
  · rename_i htls
    have hpos : (0 : Int32).toInt < s.tlsPort.toInt := Int32.lt_iff_toInt_lt.1 htls
    have hle : s.tlsPort.toInt ≤ (65535 : Int32).toInt := Int32.le_iff_toInt_le.1 h.tlsPort
    have hzero : (0 : Int32).toInt = 0 := by decide
    have hmost : (65535 : Int32).toInt = 65535 := by decide
    dsimp only
    omega
  · exact port_bounds h.port

end Server.Admitted

namespace Session

/-- Of the servers of a key that can be written, those are left out that TLS is wanted for and
cannot be had, and each of the others has its one line. All ports that are written are ports. -/
theorem Reached.servers_written {g : Session} {acts : List Act} (h : Reached g acts)
    (p : TlsPolicy) :
    (∀ k servers, g.reconciler.table.snapshot.get? k = some servers →
      (k.host = "" ∨ Net.isHostName k.host) →
        (p.render g.reconciler.table.snapshot).backends.filter (·.key = k) =
          [⟨k, (servers.filter fun s => ¬ p.Withholds s).map p.lineOf⟩]) ∧
      ∀ f ∈ (p.render g.reconciler.table.snapshot).frontends,
        (1 ≤ f.port.toNat ∧ f.port.toNat ≤ 65535) ∧
          ∀ b ∈ f.backends, ∀ l ∈ b.servers, 1 ≤ l.port ∧ l.port ≤ 65535 := by
  have hadmitted : ∀ k servers, g.reconciler.table.snapshot.get? k = some servers →
      ∀ s ∈ servers, s.Admitted := by
    intro k servers hget s hs
    have hservers : (g.reconciler.table.entry k).servers = servers := by
      rw [Table.entry_servers, hget, Option.getD_some]
    exact h.admitted (hservers ▸ hs)
  constructor
  · intro k servers hget hhost
    rw [Table.get?_snapshot] at hget
    obtain ⟨e, he, hservers⟩ := Option.map_eq_some_iff.1 hget
    have hport : k.port ≠ 0 := by simpa [Key.valid] using h.sound.valid he
    have hne : servers ≠ [] := by
      rw [← hservers, ne_eq, Table.servers_eq_nil_iff]
      exact h.sound.nonempty he
    rw [← Table.get?_snapshot] at hget
    have hpasses : servers.filter p.Passes = servers.filter fun s => ¬ p.Withholds s :=
      List.filter_congr fun s hs =>
        decide_eq_decide.2 ((hadmitted k servers hget s hs).passes_iff p)
    rw [backends_of_key p ⟨hport, hhost⟩ hget hne, ← hpasses, ← p.servers_backend k servers]
    rfl
  · intro f hf
    refine ⟨port_bounds (port_ne_zero_of_render hf), fun b hb l hl => ?_⟩
    obtain ⟨servers, hget, hbackend⟩ := TlsPolicy.backend_of_render hf hb
    rw [hbackend, TlsPolicy.servers_backend] at hl
    obtain ⟨s, hs, rfl⟩ := List.mem_map.1 hl
    exact (hadmitted b.key servers hget s (List.mem_filter.1 hs).1).port_lineOf p

/-- One server in clear text, one over TLS, and one that has no name to verify. -/
theorem servers_written_for_host :
    ∃ g acts, Reached g acts ∧
      ((TlsPolicy.mk true "/ca.pem" none).render g.reconciler.table.snapshot).backends.filter
          (·.key = ⟨443, "db.example"⟩) =
        [⟨⟨443, "db.example"⟩,
          [⟨"10.0.0.1", 8080, none⟩, ⟨"10.0.0.2", 8443, some ⟨"i-1", "/ca.pem", none⟩⟩]⟩] := by
  let mapping (address : String) : Mapping :=
    { Mapping.bare 443 address 8080 ⟨"a", 1⟩ with host := some "db.example" }
  have h := ((Reached.start.event ⟨.upsert, mapping "10.0.0.1"⟩ 0 (.ok ())).event
    ⟨.upsert, { mapping "10.0.0.2" with tlsPort := some 8443, instanceName := some "i-1" }⟩ 1
    (.ok ())).event ⟨.upsert, { mapping "10.0.0.3" with tlsPort := some 8443 }⟩ 2 (.ok ())
  have hwritten := (h.servers_written ⟨true, "/ca.pem", none⟩).1 ⟨443, "db.example"⟩
    [⟨"10.0.0.1", 8080, 0, "", ⟨"a", 1⟩, 0⟩, ⟨"10.0.0.2", 8080, 8443, "i-1", ⟨"a", 1⟩, 0⟩,
      ⟨"10.0.0.3", 8080, 8443, "", ⟨"a", 1⟩, 0⟩] (by decide +kernel) (.inr (by decide +kernel))
  exact ⟨_, _, h, hwritten.trans (by decide +kernel)⟩

end Session
end RouteSync
