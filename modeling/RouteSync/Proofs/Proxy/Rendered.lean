import RouteSync.Proofs.Net.Characters
import RouteSync.Proofs.Proxy.Grammar
import RouteSync.Proofs.Text.Utf8

/-! The text of a rendering reads back as the snapshot that it was made of, whatever the names in
the snapshot are. -/
namespace RouteSync.Proxy

open Text

/-! ### The text -/

theorem join_lineFeeds (lines : List String) :
    join '\n' (lines ++ [""]) = String.join (lines.map (· ++ "\n")) := by
  induction lines with
  | nil => rfl
  | cons line lines ih =>
    have hne : lines ++ [""] ≠ [] := by simp
    rw [List.cons_append, join_cons hne, ih, List.map_cons, String.join_cons, String.append_assoc]
    rfl

theorem join_tlsWords (t : Tls) (w : String) : join ' ' (w :: t.words) = w ++ t.text := by
  refine String.toList_inj.1 ?_
  unfold Tls.words Tls.text
  cases t.certificate <;> simp [toList_join]

theorem join_serverWords (s : ServerLine) : join ' ' s.words = "  " ++ s.text := by
  have hplace (w : String) : join ' ' (w :: (s.tls.map Tls.words).getD []) =
      w ++ (s.tls.map Tls.text).getD "" := by
    cases s.tls with
    | none => simp [join]
    | some t => exact join_tlsWords t w
  have hcons {w v : String} {ws : Words} : join ' ' (w :: v :: ws) =
      w ++ (String.singleton ' ' ++ join ' ' (v :: ws)) := join_cons (List.cons_ne_nil _ _)
  change join ' ' ("" :: "" :: "server" :: s.name :: (s.address ++ ":" ++ toString s.port) ::
    (s.tls.map Tls.words).getD []) = _
  rw [hcons, hcons, hcons, hcons, hplace, ServerLine.text_eq]
  refine String.toList_inj.1 ?_
  simp

theorem join_choiceWords (b : Backend) : join ' ' (choiceWords b.key) = b.choice := by
  refine String.toList_inj.1 ?_
  by_cases hhost : b.key.host = "" <;> simp [toList_join, choiceWords, Backend.choice, hhost]

theorem lines_backend (b : Backend) :
    (blank :: (Section.backend b).lines).map (join ' ') = b.lines := by
  have hname : join ' ' ["backend", backendName b.key] = "backend " ++ backendName b.key := by
    refine String.toList_inj.1 ?_
    simp [toList_join]
  have hservers : (b.servers.map ServerLine.words).map (join ' ') =
      b.servers.map fun s => "  " ++ s.text := by
    rw [List.map_map]
    exact List.map_congr_left fun s _ => join_serverWords s
  rw [Section.lines, Backend.lines, ← hservers, ← hname]
  rfl

def Frontend.listener (f : Frontend) : Listener := ⟨f.port, f.inspects, f.backends⟩

theorem lines_listener (f : Frontend) :
    (f.listener.sections.flatMap fun x => blank :: x.lines).map (join ' ') = f.lines := by
  have hname : join ' ' ["frontend", "frontend_" ++ toString f.port.toNat] =
      "frontend frontend_" ++ toString f.port.toNat := by
    refine String.toList_inj.1 ?_
    simp [toList_join]
  have hbind : join ' ' ["", "", "bind", ":" ++ toString f.port.toNat] =
      "  bind :" ++ toString f.port.toNat := by
    refine String.toList_inj.1 ?_
    simp [toList_join]
  have hinspection : (if f.inspects then inspectionWords else []).map (join ' ') =
      if f.inspects then inspection else [] := by
    cases f.inspects <;> rfl
  have hchoices : ((f.backends.map Backend.key).map choiceWords).map (join ' ') =
      f.backends.map Backend.choice := by
    rw [List.map_map, List.map_map]
    exact List.map_congr_left fun b _ => join_choiceWords b
  have hbackends : ((f.backends.map Section.backend).flatMap fun x => blank :: x.lines).map
      (join ' ') = f.backends.flatMap Backend.lines := by
    rw [List.flatMap_map, List.map_flatMap]
    exact congrArg f.backends.flatMap (funext lines_backend)
  rw [Frontend.lines, ← hname, ← hbind, ← hinspection, ← hchoices, ← hbackends]
  rw [Listener.sections, List.flatMap_cons, List.map_append]
  simp only [Section.lines, Frontend.listener, List.map_cons, List.map_append, List.cons_append,
    List.append_assoc]
  rfl

theorem configText_eq (fs : List Frontend) :
    configText fs = written (fs.map Frontend.listener) := by
  have hlines : (document (fs.map Frontend.listener)).map (join ' ') =
      fs.flatMap Frontend.lines ++ [""] := by
    have hfrontends := congrArg fs.flatMap (funext lines_listener)
    rw [document, List.map_append, ← hfrontends, List.flatMap_map, List.flatMap_map,
      List.flatMap_assoc, List.map_flatMap]
    rfl
  rw [written, hlines, join_lineFeeds]
  rfl

/-! ### The words -/

theorem Servable.isAddressChar {k : Key} (h : Servable k) :
    ∀ c ∈ k.host.toList, Net.isAddressChar c := by
  rcases h.2 with hempty | hhost
  · simp [hempty]
  · exact Net.isAddressChar_of_isHostName hhost

namespace TlsPolicy

variable {p : TlsPolicy}

/-- TLS is off, or the files that it names are single words. -/
def Writable (p : TlsPolicy) : Prop :=
  p.enabled → IsWord p.authority ∧ ∀ c ∈ p.certificate, IsWord c

/-- What holds of the fixed words, of the names of instances and of the files of the policy holds
of all options of a server. -/
theorem Passes.forall_mem_options {s : Server} (h : p.Passes s) {P : String → Prop}
    (hfixed : ∀ w ∈ ["ssl", "verify", "required", "verifyhost", "ca-file", "crt"], P w)
    (hname : IsWord s.instanceName → P s.instanceName)
    (hfiles : p.enabled → P p.authority ∧ ∀ c ∈ p.certificate, P c) :
    ∀ w ∈ ((p.lineOf s).tls.map Tls.words).getD [], P w := by
  simp only [List.forall_mem_cons] at hfixed
  obtain ⟨hssl, hverify, hrequired, hhost, hauthority, hcertificate, -⟩ := hfixed
  unfold lineOf
  split
  · rename_i htls
    obtain ⟨henabled, hset, hinstance⟩ := h.tls htls
    obtain ⟨hca, hcrt⟩ := hfiles henabled
    have hword : P s.instanceName := hname ⟨hset, Net.isUnbroken_of_isInstanceName hinstance⟩
    have hfirst : ∀ w ∈ ["ssl", "verify", "required", "verifyhost", s.instanceName, "ca-file",
        p.authority], P w := by
      simp only [List.forall_mem_cons]
      exact ⟨hssl, hverify, hrequired, hhost, hword, hauthority, hca, by simp⟩
    have hlast : ∀ w ∈ (p.certificate.map (["crt", ·])).getD [], P w := by
      cases hc : p.certificate with
      | none => simp
      | some c =>
        simp only [Option.map_some, Option.getD_some, List.forall_mem_cons]
        exact ⟨hcertificate, hcrt c (Option.mem_def.2 hc), by simp⟩
    exact List.forall_mem_append.2 ⟨hfirst, hlast⟩
  · simp

/-- The words of the options of a server are neither empty nor broken. -/
theorem Passes.isWord_options {s : Server} (h : p.Passes s) (hp : p.Writable) :
    ∀ w ∈ ((p.lineOf s).tls.map Tls.words).getD [], IsWord w :=
  h.forall_mem_options (by decide) id hp

theorem address_lineOf (p : TlsPolicy) (s : Server) : (p.lineOf s).address = s.address := by
  unfold lineOf
  split <;> rfl

/-- The words of a server's line before its options. -/
theorem Passes.isUnbroken_start {s : Server} (h : p.Passes s) :
    ∀ w ∈ ["", "", "server", (p.lineOf s).name,
      (p.lineOf s).address ++ ":" ++ toString (p.lineOf s).port], isUnbroken w := by
  have hunbroken : isUnbroken (p.lineOf s).address := by
    rw [address_lineOf]
    exact Net.isUnbroken_of_isAddressChar (Net.isAddressChar_of_isAddress h.address)
  have hport := isUnbroken_toString (p.lineOf s).port
  have hname : isUnbroken (p.lineOf s).name := by
    simp only [ServerLine.name, isUnbroken_append]
    exact ⟨⟨⟨by decide, hunbroken⟩, by decide⟩, hport⟩
  have hplace : isUnbroken ((p.lineOf s).address ++ ":" ++ toString (p.lineOf s).port) := by
    simp only [isUnbroken_append]
    exact ⟨⟨hunbroken, by decide⟩, hport⟩
  simp only [List.forall_mem_cons]
  exact ⟨by decide, by decide, by decide, hname, hplace, by simp⟩

theorem Passes.legible {s : Server} (h : p.Passes s) (hp : p.Writable) :
    (p.lineOf s).Legible ∧ ∀ w ∈ (p.lineOf s).words, isUnbroken w := by
  have hoptions := h.isWord_options hp
  constructor
  · refine ⟨?_, ?_, fun hempty => (hoptions "" hempty).1 rfl⟩
    · rw [address_lineOf]
      exact h.given.1
    · rw [address_lineOf]
      exact Net.underscore_notMem_of_isAddressChar (Net.isAddressChar_of_isAddress h.address)
  · exact List.forall_mem_append.2 ⟨h.isUnbroken_start, fun w hw => (hoptions w hw).2⟩

end TlsPolicy

/-- No white space stands inside the words of a stanza. -/
def Section.Unbroken : Section → Prop
  | .frontend _ _ choices => ∀ k ∈ choices, isUnbroken k.host
  | .backend b => isUnbroken b.key.host ∧ ∀ s ∈ b.servers, ∀ w ∈ s.words, isUnbroken w

theorem isUnbroken_backendName {k : Key} (h : isUnbroken k.host) :
    isUnbroken (backendName k) := by
  have hport := isUnbroken_toString k.port.toNat
  unfold backendName
  split
  · exact isUnbroken_append.2 ⟨by decide, hport⟩
  · simp only [isUnbroken_append]
    exact ⟨⟨⟨by decide, hport⟩, by decide⟩, h⟩

theorem isUnbroken_choiceWords {k : Key} (h : isUnbroken k.host) :
    ∀ w ∈ choiceWords k, isUnbroken w := by
  have hname := isUnbroken_backendName h
  unfold choiceWords
  split
  · simp only [List.forall_mem_cons]
    exact ⟨by decide, by decide, by decide, hname, by simp⟩
  · simp only [List.forall_mem_cons]
    exact ⟨by decide, by decide, by decide, hname, by decide, by decide, by decide, h, by decide,
      by simp⟩

theorem Section.Unbroken.words {x : Section} (h : x.Unbroken) :
    ∀ ws ∈ x.lines, ∀ w ∈ ws, isUnbroken w := by
  have hmode : ∀ w ∈ mode, isUnbroken w := by decide
  cases x with
  | frontend port inspects choices =>
    have hport := isUnbroken_toString port.toNat
    have hname : ∀ w ∈ ["frontend", "frontend_" ++ toString port.toNat], isUnbroken w := by
      simp only [List.forall_mem_cons, isUnbroken_append]
      exact ⟨by decide, ⟨by decide, hport⟩, by simp⟩
    have hbind : ∀ w ∈ ["", "", "bind", ":" ++ toString port.toNat], isUnbroken w := by
      simp only [List.forall_mem_cons, isUnbroken_append]
      exact ⟨by decide, by decide, by decide, ⟨by decide, hport⟩, by simp⟩
    have hinspection : ∀ ws ∈ if inspects then inspectionWords else [], ∀ w ∈ ws,
        isUnbroken w := by
      cases inspects <;> decide
    have hchoices : ∀ ws ∈ choices.map choiceWords, ∀ w ∈ ws, isUnbroken w :=
      List.forall_mem_map.2 fun k hk => isUnbroken_choiceWords (h k hk)
    have hbody := List.forall_mem_append.2 ⟨hinspection, hchoices⟩
    have hopen := List.forall_mem_cons.2 ⟨hmode, List.forall_mem_cons.2 ⟨hbind, hbody⟩⟩
    exact List.forall_mem_cons.2 ⟨hname, hopen⟩
  | backend b =>
    have hname : ∀ w ∈ ["backend", backendName b.key], isUnbroken w := by
      simp only [List.forall_mem_cons]
      exact ⟨by decide, isUnbroken_backendName h.1, by simp⟩
    have hservers : ∀ ws ∈ b.servers.map ServerLine.words, ∀ w ∈ ws, isUnbroken w :=
      List.forall_mem_map.2 h.2
    exact List.forall_mem_cons.2 ⟨hname, List.forall_mem_cons.2 ⟨hmode, hservers⟩⟩

/-! ### What is read -/

/-- What the listeners in a text tell of the snapshot that it stands for. -/
structure Describes (p : TlsPolicy) (s : Snapshot) (ls : List Listener) : Prop where
  ports : ls.Pairwise fun a b => a.port < b.port
  /-- The hosts of a port are in the order of their bytes, the empty one first. -/
  hosts : ∀ l ∈ ls, l.backends.Pairwise fun a b =>
    Utf8.bytes a.key.host < Utf8.bytes b.key.host
  own : ∀ l ∈ ls, l.backends ≠ [] ∧ ∀ b ∈ l.backends, b.key.port = l.port
  inspects : ∀ l ∈ ls, l.inspects ↔ ∃ b ∈ l.backends, b.key.host ≠ ""
  keys : ∀ k, (∃ l ∈ ls, ∃ b ∈ l.backends, b.key = k) ↔
    Servable k ∧ ∃ servers, s.get? k = some servers ∧ servers ≠ []
  servers : ∀ l ∈ ls, ∀ b ∈ l.backends, ∃ servers, s.get? b.key = some servers ∧
    b.servers = (servers.filter p.Passes).map p.lineOf

section Listeners

variable {p : TlsPolicy} {s : Snapshot}

/-- The listeners that a rendering is written for. -/
def TlsPolicy.listeners (p : TlsPolicy) (s : Snapshot) : List Listener :=
  (p.render s).frontends.map Frontend.listener

theorem mem_listeners {l : Listener} : l ∈ p.listeners s ↔
    ∃ g ∈ byPort (kept s), l = Frontend.listener ⟨g.1, g.2.map p.backend⟩ := by
  unfold TlsPolicy.listeners TlsPolicy.render
  simp only [List.map_map, List.mem_map, Function.comp_apply, eq_comm]

theorem mem_backends {b : Backend} : (∃ l ∈ p.listeners s, b ∈ l.backends) ↔
    ∃ e ∈ kept s, b = p.backend e := by
  constructor
  · rintro ⟨l, hl, hb⟩
    obtain ⟨g, hg, rfl⟩ := mem_listeners.1 hl
    obtain ⟨e, he, rfl⟩ := List.mem_map.1 hb
    exact ⟨e, mem_of_byPort hg he, rfl⟩
  · rintro ⟨e, he, rfl⟩
    obtain ⟨g, hg, he⟩ := mem_byPort_iff.2 he
    exact ⟨_, mem_listeners.2 ⟨g, hg, rfl⟩, List.mem_map_of_mem he⟩

theorem ascending_kept (s : Snapshot) : (kept s).Pairwise fun a b => a.1 < b.1 :=
  s.ascending.filter _

theorem ascending_hosts {l : Listener} (hl : l ∈ p.listeners s) :
    l.backends.Pairwise fun a b => Utf8.bytes a.key.host < Utf8.bytes b.key.host := by
  obtain ⟨g, hg, rfl⟩ := mem_listeners.1 hl
  refine List.pairwise_map.2 ?_
  refine (pairwise_of_byPort hg (ascending_kept s)).imp_of_mem fun {a b} ha hb hab => ?_
  have hascii {e : Key × List Server} (he : e ∈ g.2) : ∀ c ∈ e.1.host.toList, c.toNat < 128 := by
    intro c hc
    have hkept : Servable e.1 := (mem_kept.1 (mem_of_byPort hg he)).1
    have hchar := Net.toNat_of_isAddressChar (hkept.isAddressChar c hc)
    omega
  obtain ⟨-, hport⟩ := ofPort_byPort _ g hg
  rcases hab with hlt | ⟨-, hlt⟩
  · rw [hport a ha, hport b hb] at hlt
    exact absurd hlt (UInt16.lt_irrefl _)
  · exact Utf8.bytes_lt_of_ascii (hascii ha) (hascii hb) hlt

theorem inspects_iff (f : Frontend) : f.inspects ↔ ∃ b ∈ f.backends, b.key.host ≠ "" := by
  simp [Frontend.inspects]

theorem describes_listeners (p : TlsPolicy) (s : Snapshot) : Describes p s (p.listeners s) where
  ports := by
    unfold TlsPolicy.listeners TlsPolicy.render
    rw [List.map_map, List.pairwise_map]
    exact ascending_byPort (ascending_kept s)
  hosts l hl := ascending_hosts hl
  own l hl := by
    obtain ⟨g, hg, rfl⟩ := mem_listeners.1 hl
    obtain ⟨hne, hport⟩ := ofPort_byPort _ g hg
    refine ⟨fun hnil => hne (List.map_eq_nil_iff.1 hnil), fun b hb => ?_⟩
    obtain ⟨e, he, rfl⟩ := List.mem_map.1 hb
    exact hport e he
  inspects l hl := by
    obtain ⟨g, hg, rfl⟩ := mem_listeners.1 hl
    exact inspects_iff _
  keys k := by
    constructor
    · rintro ⟨l, hl, b, hb, rfl⟩
      obtain ⟨⟨k, servers⟩, he, rfl⟩ := mem_backends.1 ⟨l, hl, hb⟩
      obtain ⟨hk, hget, hne⟩ := mem_kept.1 he
      exact ⟨hk, servers, hget, hne⟩
    · rintro ⟨hk, servers, hget, hne⟩
      obtain ⟨l, hl, hb⟩ := mem_backends.2 ⟨(k, servers), mem_kept.2 ⟨hk, hget, hne⟩, rfl⟩
      exact ⟨l, hl, _, hb, rfl⟩
  servers l hl b hb := by
    obtain ⟨⟨k, servers⟩, he, rfl⟩ := mem_backends.1 ⟨l, hl, hb⟩
    exact ⟨servers, (mem_kept.1 he).2.1, TlsPolicy.servers_backend k servers⟩

theorem legible_backend (hp : p.Writable) {l : Listener} (hl : l ∈ p.listeners s) {b : Backend}
    (hb : b ∈ l.backends) : (Section.backend b).Legible ∧ (Section.backend b).Unbroken := by
  obtain ⟨⟨k, servers⟩, he, rfl⟩ := mem_backends.1 ⟨l, hl, hb⟩
  have hhost := (mem_kept.1 he).1.isAddressChar
  have hservers : ∀ x ∈ (p.backend (k, servers)).servers,
      x.Legible ∧ ∀ w ∈ x.words, isUnbroken w := by
    intro x hx
    rw [TlsPolicy.servers_backend] at hx
    obtain ⟨server, hserver, rfl⟩ := List.mem_map.1 hx
    have hpasses : p.Passes server := of_decide_eq_true (List.mem_filter.1 hserver).2
    exact hpasses.legible hp
  exact ⟨⟨Net.underscore_notMem_of_isAddressChar hhost, fun x hx => (hservers x hx).1⟩,
    Net.isUnbroken_of_isAddressChar hhost, fun x hx => (hservers x hx).2⟩

theorem legible_section (hp : p.Writable) {l : Listener} (hl : l ∈ p.listeners s) {x : Section}
    (hx : x ∈ l.sections) : x.Legible ∧ x.Unbroken := by
  rcases List.mem_cons.1 hx with rfl | hx
  · constructor
    · intro k hk
      obtain ⟨b, hb, rfl⟩ := List.mem_map.1 hk
      exact (legible_backend hp hl hb).1.1
    · intro k hk
      obtain ⟨b, hb, rfl⟩ := List.mem_map.1 hk
      exact (legible_backend hp hl hb).2.1
  · obtain ⟨b, hb, rfl⟩ := List.mem_map.1 hx
    exact legible_backend hp hl hb

theorem legible_listeners (hp : p.Writable) (s : Snapshot) : Legible (p.listeners s) where
  words ws hws w hw := by
    rcases mem_document.1 hws with rfl | ⟨l, hl, x, hx, hws⟩
    · rw [List.mem_singleton.1 hw]
      decide
    · exact (legible_section hp hl hx).2.words ws hws w hw
  sections l hl x hx := (legible_section hp hl hx).1

end Listeners

/-- A rendering reads back as what the snapshot holds, and as nothing else: no other text reads
so. -/
theorem TlsPolicy.Writable.read_render {p : TlsPolicy} (hp : p.Writable) (s : Snapshot) :
    ∃ ls, read? (p.render s).text = some ls ∧ Describes p s ls ∧
      ∀ t, read? t = some ls → t = (p.render s).text := by
  have htext : (p.render s).text = written (p.listeners s) := configText_eq _
  refine ⟨p.listeners s, ?_, describes_listeners p s, fun t ht => ?_⟩
  · exact (reads_written _ _).2 ⟨htext, legible_listeners hp s⟩
  · rw [htext]
    exact ((reads_written _ _).1 ht).1

/-- Hosts and servers that would break out of their lines, among others that are written. -/
def hostile : Snapshot := RouteMap.ofList [
  (⟨443, ""⟩, [.plain "10.0.0.1" 8443, .plain "10.0.0.1:80 #" 8443,
    { Server.plain "fd00::1" 8443 with tlsPort := 9443, instanceName := "i-1" }]),
  (⟨443, "db.example"⟩, [.plain "a\n  server b 10.0.0.2:1" 8443]),
  (⟨443, "db.example \x7d\n  bind :22"⟩, [.plain "10.0.0.1" 8443]),
  (⟨0, ""⟩, [.plain "10.0.0.1" 8443])]

theorem hostile_read_back :
    (TlsPolicy.mk true "/ca.pem" (some "/client.pem")).Writable ∧
      ∃ ls, read? ((TlsPolicy.mk true "/ca.pem" (some "/client.pem")).render hostile).text =
          some ls ∧ Describes ⟨true, "/ca.pem", some "/client.pem"⟩ hostile ls ∧
        ∀ t, read? t = some ls →
          t = ((TlsPolicy.mk true "/ca.pem" (some "/client.pem")).render hostile).text := by
  have hp : (TlsPolicy.mk true "/ca.pem" (some "/client.pem")).Writable := by
    intro _
    refine ⟨by decide, fun c hc => ?_⟩
    obtain rfl := Option.some.inj hc
    decide
  exact ⟨hp, TlsPolicy.Writable.read_render hp hostile⟩

end RouteSync.Proxy
