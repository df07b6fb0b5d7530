import Mathlib.Data.List.Pairwise
import RouteSync.Proofs.Proxy.Render
import RouteSync.Proofs.Reconcile.Configured

/-! The names of the servers of a backend, and when two of them are the same. -/
namespace RouteSync.Proxy

/-- The name of a server: its address and the port it is spoken to on. -/
def ServerLine.name (l : ServerLine) : String := "server_" ++ l.address ++ "_" ++ toString l.port

theorem ServerLine.text_eq (l : ServerLine) :
    l.text = "server " ++ l.name ++ " " ++ l.address ++ ":" ++ toString l.port ++
      (l.tls.map Tls.text).getD "" := by
  have hsplit : "server server_" = "server " ++ "server_" := by simp
  unfold text name
  rw [hsplit]
  simp only [String.append_assoc]

theorem toDigits_inj {m n : Nat} (h : Nat.toDigits 10 m = Nat.toDigits 10 n) : m = n := by
  have hnumber := congrArg (fun ds => Nat.ofDigitChars 10 ds 0) h
  simpa using hnumber

theorem append_underscore_inj {as bs : List Char} {m n : Nat}
    (h : as ++ '_' :: Nat.toDigits 10 m = bs ++ '_' :: Nat.toDigits 10 n) : as = bs ∧ m = n := by
  -- The digits hold no underscore, so the last one stands before them on both sides.
  have hm : '_' ∉ Nat.toDigits 10 m := Nat.underscore_not_in_toDigits
  have hn : '_' ∉ Nat.toDigits 10 n := Nat.underscore_not_in_toDigits
  rcases List.append_eq_append_iff.1 h with ⟨cs, hbs, htail⟩ | ⟨cs, has, htail⟩
  · cases cs with
    | nil =>
      exact ⟨by simpa using hbs.symm, toDigits_inj (List.cons.inj htail).2⟩
    | cons c cs =>
      obtain ⟨-, hdigits⟩ := List.cons.inj htail
      exact absurd (hdigits ▸ by simp) hm
  · cases cs with
    | nil =>
      exact ⟨by simpa using has, toDigits_inj (List.cons.inj htail).2.symm⟩
    | cons c cs =>
      obtain ⟨-, hdigits⟩ := List.cons.inj htail
      exact absurd (hdigits ▸ by simp) hn

theorem ServerLine.name_eq_iff {a b : ServerLine} :
    a.name = b.name ↔ a.address = b.address ∧ a.port = b.port := by
  refine ⟨fun h => ?_, fun ⟨ha, hp⟩ => by rw [name, name, ha, hp]⟩
  have hchars := congrArg String.toList h
  simp only [name, String.toList_append, Nat.toString_eq_repr, Nat.toList_repr,
    List.append_assoc] at hchars
  obtain ⟨ha, hp⟩ := append_underscore_inj (List.append_cancel_left hchars)
  exact ⟨String.toList_inj.1 ha, hp⟩

end RouteSync.Proxy

namespace RouteSync

/-- The port that a server is spoken to on. -/
def Server.dialled (s : Server) : Nat :=
  if 0 < s.tlsPort then s.tlsPort.toInt.toNat else s.port.toNat

namespace Proxy.TlsPolicy

variable {p : TlsPolicy}

def Writes (p : TlsPolicy) (s : Server) : Prop := ∃ l, p.line s = .ok l

theorem line_dials {s : Server} {l : ServerLine} (h : p.line s = .ok l) :
    l.address = s.address ∧ l.port = s.dialled := by
  obtain ⟨-, rfl⟩ := line_eq_ok_iff.1 h
  unfold lineOf Server.dialled
  split <;> exact ⟨rfl, rfl⟩

/-- Two servers that are written under the same name. -/
def Clash (p : TlsPolicy) (s s' : Server) : Prop :=
  p.Writes s ∧ p.Writes s' ∧ s.endpoint ≠ s'.endpoint ∧ 0 < s.tlsPort ∧
    s.address = s'.address ∧ s.dialled = s'.dialled

theorem clash_or_clash {s s' : Server} {l l' : ServerLine} (hl : p.line s = .ok l)
    (hl' : p.line s' = .ok l') (hne : s.endpoint ≠ s'.endpoint) (hname : l.name = l'.name) :
    p.Clash s s' ∨ p.Clash s' s := by
  obtain ⟨ha, hp⟩ := line_dials hl
  obtain ⟨ha', hp'⟩ := line_dials hl'
  obtain ⟨haddress, hport⟩ := ServerLine.name_eq_iff.1 hname
  rw [ha, ha'] at haddress
  rw [hp, hp'] at hport
  by_cases htls : 0 < s.tlsPort
  · exact .inl ⟨⟨l, hl⟩, ⟨l', hl'⟩, hne, htls, haddress, hport⟩
  by_cases htls' : 0 < s'.tlsPort
  · exact .inr ⟨⟨l', hl'⟩, ⟨l, hl⟩, hne.symm, htls', haddress.symm, hport.symm⟩
  · -- In clear text the name is made of the endpoint.
    rw [Server.dialled, Server.dialled, if_neg htls, if_neg htls'] at hport
    exact absurd (Prod.ext haddress (UInt16.toNat_inj.1 hport)) hne

theorem names_nodup_iff {ss : List Server} (h : (ss.map Server.endpoint).Nodup) :
    ((ss.filterMap fun s => (p.line s).toOption).map ServerLine.name).Nodup ↔
      ∀ s ∈ ss, ∀ s' ∈ ss, ¬ p.Clash s s' := by
  have hok {s : Server} {l : ServerLine} : (p.line s).toOption = some l ↔ p.line s = .ok l := by
    cases p.line s <;> simp [Except.toOption]
  rw [List.Nodup, List.pairwise_map, List.pairwise_filterMap]
  simp only [hok]
  constructor
  · intro hpair s hs s' hs' ⟨⟨l, hl⟩, ⟨l', hl'⟩, hne, _, haddress, hdialled⟩
    have : Std.Symm fun a b => ∀ x, p.line a = .ok x → ∀ y, p.line b = .ok y → x.name ≠ y.name :=
      ⟨fun _ _ hab y hy x hx => (hab x hx y hy).symm⟩
    refine hpair.forall hs hs' (fun heq => hne (congrArg _ heq)) l hl l' hl' ?_
    obtain ⟨ha, hp⟩ := line_dials hl
    obtain ⟨ha', hp'⟩ := line_dials hl'
    exact ServerLine.name_eq_iff.2 ⟨by rw [ha, ha', haddress], by rw [hp, hp', hdialled]⟩
  · intro hclash
    refine (List.pairwise_map.1 h).imp_of_mem fun {s s'} hs hs' hne l hl l' hl' hname => ?_
    rcases clash_or_clash hl hl' hne hname with hc | hc
    · exact hclash s hs s' hs' hc
    · exact hclash s' hs' s hs hc

end Proxy.TlsPolicy

namespace Session

open Proxy

/-- The servers of a backend stanza have names of their own, unless one of its key's is spoken to
over TLS on the port that another at the same address is spoken to on. -/
theorem Reached.server_names_nodup_iff {g : Session} {acts : List Act} (h : Reached g acts)
    (p : TlsPolicy) {f : Frontend} {b : Backend}
    (hf : f ∈ (p.render g.reconciler.table.snapshot).frontends) (hb : b ∈ f.backends) :
    (b.servers.map ServerLine.name).Nodup ↔
      ∀ s ∈ (g.reconciler.table.entry b.key).servers,
        ∀ s' ∈ (g.reconciler.table.entry b.key).servers, ¬ p.Clash s s' := by
  obtain ⟨servers, hget, hbackend⟩ := TlsPolicy.backend_of_render hf hb
  have hservers : (g.reconciler.table.entry b.key).servers = servers := by
    rw [Table.entry_servers, hget, Option.getD_some]
  have hlines : b.servers = servers.filterMap fun s => (p.line s).toOption := by
    rw [hbackend, TlsPolicy.backend]
  have hdistinct : (servers.map Server.endpoint).Nodup := by
    have hentry := h.sound.distinct_entry b.key
    rw [← hservers]
    simpa [Entry.Distinct, Entry.endpoints, Entry.servers, Function.comp_def] using hentry
  rw [hservers, hlines]
  exact TlsPolicy.names_nodup_iff hdistinct

/-- One server over TLS, another in clear text on a port of its own. -/
theorem server_names_of_two_servers :
    ∃ g acts, Reached g acts ∧
      ∃ f ∈ (TlsPolicy.render ⟨true, "/ca.pem", none⟩ g.reconciler.table.snapshot).frontends,
        ∃ b ∈ f.backends, b.servers.length = 2 ∧
          ∀ s ∈ (g.reconciler.table.entry b.key).servers,
            ∀ s' ∈ (g.reconciler.table.entry b.key).servers,
              ¬ TlsPolicy.Clash ⟨true, "/ca.pem", none⟩ s s' := by
  let tls : Event := ⟨.upsert, { Mapping.bare 1024 "10.0.0.1" 8080 ⟨"a", 1⟩ with
    tlsPort := some 8443, instanceName := some "i-1" }⟩
  let clear : Event := ⟨.upsert, .bare 1024 "10.0.0.1" 9090 ⟨"a", 2⟩⟩
  let r := ((Reconciler.initial.handle tls 0 (.ok ())).after.handle clear 1 (.ok ())).after
  have h : Reached ⟨r, []⟩ _ := (Reached.start.event tls 0 (.ok ())).event clear 1 (.ok ())
  obtain ⟨f, hf, b, hb, htwo, hnodup⟩ :
      ∃ f ∈ (TlsPolicy.render ⟨true, "/ca.pem", none⟩ r.table.snapshot).frontends,
        ∃ b ∈ f.backends, b.servers.length = 2 ∧ (b.servers.map ServerLine.name).Nodup := by
    decide +kernel
  exact ⟨_, _, h, f, hf, b, hb, htwo, (h.server_names_nodup_iff _ hf hb).1 hnodup⟩

/-- One server over TLS on a port, another in clear text on the same. -/
theorem server_names_clash :
    ∃ g acts, Reached g acts ∧
      ∃ f ∈ (TlsPolicy.render ⟨true, "/ca.pem", none⟩ g.reconciler.table.snapshot).frontends,
        ∃ b ∈ f.backends, ¬ (b.servers.map ServerLine.name).Nodup := by
  have h := (Reached.start.event ⟨.upsert,
    { Mapping.bare 1024 "10.0.0.1" 8080 ⟨"a", 1⟩ with
      tlsPort := some 8443, instanceName := some "i-1" }⟩ 0 (.ok ())).event
    ⟨.upsert, .bare 1024 "10.0.0.1" 8443 ⟨"a", 2⟩⟩ 1 (.ok ())
  refine ⟨_, _, h, ?_⟩
  decide +kernel

end Session
end RouteSync
