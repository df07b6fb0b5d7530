import Mathlib.Tactic.MkIffOfInductiveProp
import RouteSync.Proofs.Route.Map
import RouteSync.Proxy.Render

/-! Where the stanzas of a rendering come from. -/
namespace RouteSync.Proxy

variable {α : Type}

theorem flatMap_groupUnder (e : Key × α) (gs : List (UInt16 × List (Key × α))) :
    (groupUnder e gs).flatMap Prod.snd = e :: gs.flatMap Prod.snd := by
  cases gs with
  | nil => rfl
  | cons g gs =>
    simp only [groupUnder]
    split <;> rfl

/-- Grouping loses nothing and keeps the order. -/
theorem flatMap_byPort (es : List (Key × α)) : (byPort es).flatMap Prod.snd = es := by
  induction es with
  | nil => rfl
  | cons e es ih =>
    change (groupUnder e (byPort es)).flatMap Prod.snd = e :: es
    rw [flatMap_groupUnder, ih]

theorem mem_byPort_iff {es : List (Key × α)} {x : Key × α} :
    (∃ g ∈ byPort es, x ∈ g.2) ↔ x ∈ es := by
  rw [← List.mem_flatMap, flatMap_byPort]

theorem mem_of_byPort {es : List (Key × α)} {g : UInt16 × List (Key × α)} (hg : g ∈ byPort es)
    {x : Key × α} (hx : x ∈ g.2) : x ∈ es := mem_byPort_iff.1 ⟨g, hg, hx⟩

theorem pairwise_of_byPort {es : List (Key × α)} {g : UInt16 × List (Key × α)}
    (hg : g ∈ byPort es) {R : Key × α → Key × α → Prop} (h : es.Pairwise R) : g.2.Pairwise R := by
  rw [← flatMap_byPort es] at h
  exact (List.pairwise_flatMap.1 h).1 g hg

/-- A group is not empty and holds what is of its port. -/
def OfPort (g : UInt16 × List (Key × α)) : Prop := g.2 ≠ [] ∧ ∀ e ∈ g.2, e.1.port = g.1

theorem ofPort_groupUnder {e : Key × α} {gs : List (UInt16 × List (Key × α))}
    (h : ∀ g ∈ gs, OfPort g) : ∀ g ∈ groupUnder e gs, OfPort g := by
  have hone : OfPort (e.1.port, [e]) := by simp [OfPort]
  cases gs with
  | nil =>
    intro g hg
    rwa [List.mem_singleton.1 hg]
  | cons first gs =>
    obtain ⟨hfirst, hgs⟩ := List.forall_mem_cons.1 h
    simp only [groupUnder]
    split
    · rename_i hport
      refine List.forall_mem_cons.2 ⟨⟨List.cons_ne_nil _ _, ?_⟩, hgs⟩
      exact List.forall_mem_cons.2 ⟨hport.symm, hfirst.2⟩
    · exact List.forall_mem_cons.2 ⟨hone, h⟩

theorem ofPort_byPort (es : List (Key × α)) : ∀ g ∈ byPort es, OfPort g := by
  induction es with
  | nil => simp [byPort]
  | cons e es ih => exact ofPort_groupUnder ih

/-- The groups of ascending keys have ascending ports. -/
theorem ascending_byPort {es : List (Key × α)} (h : es.Pairwise fun a b => a.1 < b.1) :
    (byPort es).Pairwise fun a b => a.1 < b.1 := by
  induction es with
  | nil => exact .nil
  | cons e es ih =>
    obtain ⟨he, hes⟩ := List.pairwise_cons.1 h
    have hle : ∀ g ∈ byPort es, e.1.port ≤ g.1 := by
      intro g hg
      obtain ⟨hne, hport⟩ := ofPort_byPort es g hg
      obtain ⟨x, hx⟩ := List.exists_mem_of_ne_nil _ hne
      rw [← hport x hx]
      rcases he x (mem_of_byPort hg hx) with hlt | ⟨heq, -⟩
      · exact UInt16.le_of_lt hlt
      · exact UInt16.le_of_eq heq
    have hgroups := ih hes
    change (groupUnder e (byPort es)).Pairwise _
    cases hgs : byPort es with
    | nil => exact List.pairwise_singleton _ _
    | cons first gs =>
      rw [hgs] at hle hgroups
      obtain ⟨hfirst, hrest⟩ := List.pairwise_cons.1 hgroups
      simp only [groupUnder]
      split
      · exact List.pairwise_cons.2 ⟨hfirst, hrest⟩
      · rename_i hport
        have hlt : e.1.port < first.1 :=
          UInt16.lt_of_le_of_ne (hle first List.mem_cons_self) (Ne.symm hport)
        refine List.pairwise_cons.2 ⟨List.forall_mem_cons.2 ⟨hlt, fun g hg => ?_⟩, hgroups⟩
        exact UInt16.lt_trans hlt (hfirst g hg)

/-- A key that listeners can be made for. -/
def Servable (k : Key) : Prop := k.port ≠ 0 ∧ (k.host = "" ∨ Net.isHostName k.host)

theorem keyFault_eq_none_iff {k : Key} : KeyFault.of? k = none ↔ Servable k := by
  unfold KeyFault.of? Servable
  by_cases hport : k.port = 0
  · simp [Key.valid, hport]
  · by_cases hhost : k.host = "" <;> simp [Key.valid, hport, hhost]

theorem mem_kept {s : Snapshot} {k : Key} {servers : List Server} :
    (k, servers) ∈ kept s ↔ Servable k ∧ s.get? k = some servers ∧ servers ≠ [] := by
  rw [kept, List.mem_filter, RouteMap.get?_eq_some_iff, ← keyFault_eq_none_iff]
  simp only [Bool.and_eq_true, Option.isNone_iff_eq_none, Bool.not_eq_true',
    List.isEmpty_eq_false_iff]
  exact and_left_comm

namespace TlsPolicy

variable {p : TlsPolicy}

/-- The checks that a server is written under. -/
@[mk_iff]
structure Passes (p : TlsPolicy) (s : Server) : Prop where
  given : s.address ≠ "" ∧ s.port ≠ 0
  address : Net.isAddress s.address
  tls : 0 < s.tlsPort →
    p.enabled ∧ s.instanceName ≠ "" ∧ Net.isInstanceName s.instanceName

instance (p : TlsPolicy) (s : Server) : Decidable (p.Passes s) :=
  decidable_of_iff' _ (passes_iff p s)

/-- How a server is written: over TLS to its TLS port where it has one, else in clear text. -/
def lineOf (p : TlsPolicy) (s : Server) : ServerLine :=
  if 0 < s.tlsPort then
    ⟨s.address, s.tlsPort.toInt.toNat, some ⟨s.instanceName, p.authority, p.certificate⟩⟩
  else ⟨s.address, s.port.toNat, none⟩

theorem line_of_passes {s : Server} (h : p.Passes s) : p.line s = .ok (p.lineOf s) := by
  have hgiven : ¬ (s.address.isEmpty ∨ s.port = 0) := by simpa using h.given
  unfold line lineOf
  rw [if_neg hgiven, if_neg (by simp [h.address])]
  by_cases htls : 0 < s.tlsPort
  · obtain ⟨henabled, hset, hname⟩ := h.tls htls
    rw [if_pos htls, if_pos htls, if_neg (by simp [henabled]), if_neg (by simpa using hset),
      if_neg (by simp [hname])]
    rfl
  · rw [if_neg htls, if_neg htls]

theorem passes_of_line {s : Server} {l : ServerLine} (h : p.line s = .ok l) : p.Passes s := by
  unfold line at h
  split at h
  · cases h
  rename_i hgiven
  split at h
  · cases h
  rename_i haddress
  have hchecks : (s.address ≠ "" ∧ s.port ≠ 0) ∧ Net.isAddress s.address := by
    simpa using And.intro hgiven haddress
  refine ⟨hchecks.1, hchecks.2, fun htls => ?_⟩
  rw [if_pos htls] at h
  split at h
  · cases h
  rename_i henabled
  split at h
  · cases h
  rename_i hset
  split at h
  · cases h
  rename_i hname
  exact ⟨by simpa using henabled, by simpa using hset, by simpa using hname⟩

theorem line_eq_ok_iff {s : Server} {l : ServerLine} :
    p.line s = .ok l ↔ p.Passes s ∧ l = p.lineOf s := by
  constructor
  · intro h
    have hp := passes_of_line h
    rw [line_of_passes hp] at h
    exact ⟨hp, (Except.ok.inj h).symm⟩
  · rintro ⟨hp, rfl⟩
    exact line_of_passes hp

theorem line_toOption (s : Server) :
    (p.line s).toOption = if p.Passes s then some (p.lineOf s) else none := by
  by_cases h : p.Passes s
  · rw [if_pos h, line_of_passes h]
    rfl
  · rw [if_neg h]
    cases hline : p.line s with
    | error fault => rfl
    | ok l => exact absurd (passes_of_line hline) h

theorem servers_backend (k : Key) (servers : List Server) :
    (p.backend (k, servers)).servers = (servers.filter p.Passes).map p.lineOf := by
  unfold backend
  simp only [line_toOption]
  rw [← List.filterMap_eq_map, List.filterMap_filter]
  simp

end TlsPolicy

/-- Every backend stanza stands for a key of the snapshot. -/
theorem TlsPolicy.backend_of_render {p : TlsPolicy} {s : Snapshot} {f : Frontend} {b : Backend}
    (hf : f ∈ (p.render s).frontends) (hb : b ∈ f.backends) :
    ∃ servers, s.get? b.key = some servers ∧ b = p.backend (b.key, servers) := by
  obtain ⟨⟨port, routes⟩, hg, rfl⟩ := List.mem_map.1 hf
  obtain ⟨⟨k, servers⟩, hroute, rfl⟩ := List.mem_map.1 hb
  have hmem := (List.mem_filter.1 (mem_of_byPort hg hroute)).1
  exact ⟨servers, RouteMap.get?_eq_some_iff.2 hmem, rfl⟩

end RouteSync.Proxy
