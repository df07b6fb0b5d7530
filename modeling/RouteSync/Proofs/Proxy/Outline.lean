import RouteSync.Proofs.Proxy.Rendered
import RouteSync.Proofs.Proxy.Served

/-! The outline of a text: its frontends, its backends, and the lines that send connections from the
ones to the others. In a rendering every one of these lines finds its backend. -/
namespace RouteSync.Proxy

open Text

/-! ### Reading an outline -/

/-- A line that names a backend: for all connections that no other line takes, or for some. -/
inductive Choice where
  | fallback (name : String)
  | use (name : String)
  deriving DecidableEq

def Choice.name : Choice → String
  | .fallback name => name
  | .use name => name

/-- What the first words of a line tell. -/
inductive Mark where
  | frontend (name : String)
  | backend (name : String)
  | choice (c : Choice)
  deriving DecidableEq

def Mark.ofWords? : Words → Option Mark
  | "frontend" :: name :: _ => some (.frontend name)
  | "backend" :: name :: _ => some (.backend name)
  | "default_backend" :: name :: _ => some (.choice (.fallback name))
  | "use_backend" :: name :: _ => some (.choice (.use name))
  | _ => none

/-- Words stand between any number of spaces. -/
def Mark.ofLine? (line : String) : Option Mark := ofWords? ((cut ' ' line).filter (· ≠ ""))

/-- The names of the frontends, each with the choices that stand in it, and of the backends. -/
structure Outline where
  frontends : List (String × List Choice)
  backends : List String
  deriving DecidableEq

/-- The choices before the first stanza, and the outline from there on. No choice stands in the
stanza of a backend. -/
def Outline.gather : List Mark → Option (List Choice × Outline)
  | [] => some ([], ⟨[], []⟩)
  | .choice c :: rest => (gather rest).map fun g => (c :: g.1, g.2)
  | .frontend name :: rest =>
    (gather rest).map fun g => ([], ⟨(name, g.1) :: g.2.frontends, g.2.backends⟩)
  | .backend name :: rest =>
    (gather rest).bind fun g =>
      if g.1 = [] then some ([], ⟨g.2.frontends, name :: g.2.backends⟩) else none

/-- Every line counts, whatever stands before it. -/
def outline? (text : String) : Option Outline :=
  (Outline.gather ((cut '\n' text).filterMap Mark.ofLine?)).bind fun g =>
    if g.1 = [] then some g.2 else none

/-- The names of stanzas are their own, and choices and backends go together one by one. -/
structure Outline.Resolves (o : Outline) : Prop where
  frontends : (o.frontends.map Prod.fst).Nodup
  backends : o.backends.Nodup
  /-- At most the first choice of a frontend is the fallback. -/
  fallback : ∀ f ∈ o.frontends, ∃ uses : List String,
    f.2 = uses.map .use ∨ ∃ name, f.2 = .fallback name :: uses.map .use
  found : ∀ f ∈ o.frontends, ∀ c ∈ f.2, c.name ∈ o.backends
  once : ∀ name ∈ o.backends, (o.frontends.flatMap Prod.snd).countP (·.name = name) = 1
  /-- A backend is chosen in the frontend of its port. -/
  own : ∀ name ∈ o.backends, ∃ k : Key, name = backendName k ∧
    ∃ f ∈ o.frontends, f.1 = "frontend_" ++ toString k.port.toNat ∧ ∃ c ∈ f.2, c.name = name

example : outline? "frontend a\n  default_backend b\n\nbackend b\n" =
    some ⟨[("a", [.fallback "b"])], ["b"]⟩ := by decide +kernel

example : outline? "backend b\n  default_backend b\n" = none := by decide +kernel

/-! ### The outline of what is written -/

def Choice.ofKey (k : Key) : Choice :=
  if k.host = "" then .fallback (backendName k) else .use (backendName k)

theorem Choice.name_ofKey (k : Key) : (ofKey k).name = backendName k := by
  unfold ofKey
  split <;> rfl

/-- What the lines of a stanza tell. -/
def Section.marks : Section → List Mark
  | .frontend port _ choices =>
    .frontend ("frontend_" ++ toString port.toNat) :: choices.map fun k => .choice (.ofKey k)
  | .backend b => [.backend (backendName b.key)]

def Outline.ofListeners (ls : List Listener) : Outline where
  frontends := ls.map fun l =>
    ("frontend_" ++ toString l.port.toNat, l.backends.map fun b => .ofKey b.key)
  backends := (ls.flatMap Listener.backends).map fun b => backendName b.key

theorem cut_join_cons {sep : Char} {w : String} {ws : List String} (h : sep ∉ w.toList)
    (hne : ws ≠ []) : cut sep (join sep (w :: ws)) = w :: cut sep (join sep ws) := by
  have hchars : (join sep (w :: ws)).toList = w.toList ++ sep :: (join sep ws).toList := by
    rw [join_cons hne]
    simp
  unfold cut
  rw [hchars, splitOn_eq, splitOn_eq, List.splitOn_append_cons_self_of_not_mem h, List.map_cons,
    String.ofList_toList]

namespace Mark

theorem ofLine?_join {ws : Words} (hne : ws ≠ []) (h : ∀ w ∈ ws, isUnbroken w) :
    ofLine? (join ' ' ws) = ofWords? (ws.filter (· ≠ "")) := by
  have hcut : cut ' ' (join ' ' ws) = ws :=
    cut_eq_iff.2 ⟨rfl, hne, fun w hw => notMem_of_isUnbroken (h w hw) (by decide)⟩
  rw [ofLine?, hcut]

/-- The third word of a server's line tells enough, whatever its options are. -/
theorem ofLine?_server (s : ServerLine) : ofLine? (join ' ' s.words) = none := by
  have hwords : s.words = "" :: "" :: "server" :: s.name :: (s.address ++ ":" ++ toString s.port) ::
      (s.tls.map Tls.words).getD [] := rfl
  rw [ofLine?, hwords, cut_join_cons (by decide) (by simp), cut_join_cons (by decide) (by simp),
    cut_join_cons (by decide) (by simp)]
  rfl

theorem ofLine?_choice {k : Key} (h : isUnbroken k.host) :
    ofLine? (join ' ' (choiceWords k)) = some (.choice (.ofKey k)) := by
  have hname : backendName k ≠ "" := by
    unfold backendName
    split <;> simp
  have hne : choiceWords k ≠ [] := by
    unfold choiceWords
    split <;> simp
  rw [ofLine?_join hne (isUnbroken_choiceWords h)]
  unfold choiceWords Choice.ofKey
  by_cases hhost : k.host = "" <;> simp [hhost, hname, ofWords?]

end Mark

/-- The keys that a stanza names. -/
def Section.keys : Section → List Key
  | .frontend _ _ choices => choices
  | .backend b => [b.key]

theorem isUnbroken_portName {w : String} (hw : isUnbroken w) (port : UInt16) :
    isUnbroken (w ++ toString port.toNat) :=
  isUnbroken_append.2 ⟨hw, isUnbroken_toString port.toNat⟩

theorem Section.filterMap_lines {x : Section} (h : ∀ k ∈ x.keys, isUnbroken k.host) :
    x.lines.filterMap (fun ws => Mark.ofLine? (join ' ' ws)) = x.marks := by
  have hmode : Mark.ofLine? (join ' ' mode) = none := by decide +kernel
  cases x with
  | frontend port inspects choices =>
    have hname : Mark.ofLine? (join ' ' ["frontend", "frontend_" ++ toString port.toNat]) =
        some (.frontend ("frontend_" ++ toString port.toNat)) := by
      have hport : isUnbroken ("frontend_" ++ toString port.toNat) :=
        isUnbroken_portName (by decide) port
      rw [Mark.ofLine?_join (by simp) (List.forall_mem_cons.2 ⟨by decide, by simpa using hport⟩)]
      simp [Mark.ofWords?]
    have hbind : Mark.ofLine? (join ' ' ["", "", "bind", ":" ++ toString port.toNat]) = none := by
      have hport : isUnbroken (":" ++ toString port.toNat) := isUnbroken_portName (by decide) port
      have hwords : ∀ w ∈ ["", "", "bind", ":" ++ toString port.toNat], isUnbroken w := by
        simp only [List.forall_mem_cons]
        exact ⟨by decide, by decide, by decide, hport, by simp⟩
      rw [Mark.ofLine?_join (by simp) hwords]
      simp [Mark.ofWords?]
    have hinspection : (if inspects then inspectionWords else []).filterMap
        (fun ws => Mark.ofLine? (join ' ' ws)) = [] := by
      cases inspects <;> decide +kernel
    have hchoices : (choices.map choiceWords).filterMap (fun ws => Mark.ofLine? (join ' ' ws)) =
        choices.map fun k => .choice (.ofKey k) := by
      rw [List.filterMap_map, ← List.filterMap_eq_map]
      exact List.filterMap_congr fun k hk => Mark.ofLine?_choice (h k hk)
    rw [Section.lines, List.filterMap_cons, hname, List.filterMap_cons, hmode, List.filterMap_cons,
      hbind, List.filterMap_append, hinspection, hchoices]
    rfl
  | backend b =>
    have hkey : isUnbroken (backendName b.key) := isUnbroken_backendName (h b.key (by simp [keys]))
    have hne : backendName b.key ≠ "" := by
      unfold backendName
      split <;> simp
    have hname : Mark.ofLine? (join ' ' ["backend", backendName b.key]) =
        some (.backend (backendName b.key)) := by
      rw [Mark.ofLine?_join (by simp) (List.forall_mem_cons.2 ⟨by decide, by simpa using hkey⟩)]
      simp [Mark.ofWords?, hne]
    have hservers : (b.servers.map ServerLine.words).filterMap
        (fun ws => Mark.ofLine? (join ' ' ws)) = [] := by
      rw [List.filterMap_eq_nil_iff]
      exact List.forall_mem_map.2 fun s _ => Mark.ofLine?_server s
    rw [Section.lines, List.filterMap_cons, hname, List.filterMap_cons, hmode, hservers]
    rfl

theorem filterMap_document {ls : List Listener}
    (h : ∀ l ∈ ls, ∀ x ∈ l.sections, ∀ k ∈ x.keys, isUnbroken k.host) :
    (document ls).filterMap (fun ws => Mark.ofLine? (join ' ' ws)) =
      (ls.flatMap Listener.sections).flatMap Section.marks := by
  have hblank : Mark.ofLine? (join ' ' blank) = none := by decide +kernel
  rw [document, List.filterMap_append, List.filterMap_flatMap, List.flatMap_map]
  have hlast : [blank].filterMap (fun ws => Mark.ofLine? (join ' ' ws)) = [] := by
    rw [List.filterMap_cons, hblank]
    rfl
  rw [hlast, List.append_nil]
  refine List.flatMap_congr fun x hx => ?_
  obtain ⟨l, hl, hx⟩ := List.mem_flatMap.1 hx
  rw [List.filterMap_cons, hblank]
  exact Section.filterMap_lines (h l hl x hx)

namespace Outline

variable {g : List Choice × Outline} {rest : List Mark}

theorem gather_backends {o : Outline} (h : gather rest = some ([], o)) (names : List String) :
    gather (names.map .backend ++ rest) = some ([], ⟨o.frontends, names ++ o.backends⟩) := by
  induction names with
  | nil => exact h
  | cons name names ih => simp [gather, ih]

theorem gather_choices (h : gather rest = some g) (cs : List Choice) :
    gather (cs.map .choice ++ rest) = some (cs ++ g.1, g.2) := by
  induction cs with
  | nil => exact h
  | cons c cs ih => simp [gather, ih]

theorem gather_listener {o : Outline} (h : gather rest = some ([], o)) (l : Listener) :
    gather (l.sections.flatMap Section.marks ++ rest) =
      some ([], ⟨(ofListeners [l]).frontends ++ o.frontends,
        (ofListeners [l]).backends ++ o.backends⟩) := by
  have hbackends := gather_backends h (l.backends.map fun b => backendName b.key)
  have hchoices := gather_choices hbackends (l.backends.map fun b => .ofKey b.key)
  have hstanzas : (l.backends.map Section.backend).flatMap Section.marks =
      (l.backends.map fun b => backendName b.key).map .backend := by
    rw [List.flatMap_map, List.map_map, List.map_eq_flatMap]
    rfl
  have hmarks : l.sections.flatMap Section.marks ++ rest =
      .frontend ("frontend_" ++ toString l.port.toNat) ::
        ((l.backends.map fun b => Choice.ofKey b.key).map .choice ++
          ((l.backends.map fun b => backendName b.key).map .backend ++ rest)) := by
    rw [Listener.sections, List.flatMap_cons, hstanzas, Section.marks]
    simp
  rw [hmarks, gather, hchoices]
  simp [ofListeners]

theorem gather_listeners (ls : List Listener) :
    gather ((ls.flatMap Listener.sections).flatMap Section.marks) = some ([], ofListeners ls) := by
  induction ls with
  | nil => rfl
  | cons l ls ih =>
    rw [List.flatMap_cons, List.flatMap_append, gather_listener ih]
    simp [ofListeners]

end Outline

/-- Where no line is broken the outline of what is written is that of the listeners. -/
theorem outline?_written {ls : List Listener}
    (hkeys : ∀ l ∈ ls, ∀ x ∈ l.sections, ∀ k ∈ x.keys, isUnbroken k.host)
    (hfeeds : ∀ ws ∈ document ls, ∀ w ∈ ws, '\n' ∉ w.toList) :
    outline? (written ls) = some (.ofListeners ls) := by
  have hlines : ∀ line ∈ (document ls).map (join ' '), '\n' ∉ line.toList := by
    intro line hline hmem
    obtain ⟨ws, hws, rfl⟩ := List.mem_map.1 hline
    rcases mem_join hmem with hspace | ⟨w, hw, hmem⟩
    · exact absurd hspace (by decide)
    · exact hfeeds ws hws w hw hmem
  have hcut : cut '\n' (written ls) = (document ls).map (join ' ') :=
    cut_eq_iff.2 ⟨rfl, by simp [document], hlines⟩
  have hmarks : (cut '\n' (written ls)).filterMap Mark.ofLine? =
      (ls.flatMap Listener.sections).flatMap Section.marks := by
    rw [hcut, List.filterMap_map]
    exact filterMap_document hkeys
  rw [outline?, hmarks, Outline.gather_listeners]
  rfl

/-! ### The outline of a rendering -/

namespace TlsPolicy

variable {p : TlsPolicy} {s : Snapshot}

/-- TLS is off, or the files that it names stand on one line. -/
def OneLine (p : TlsPolicy) : Prop :=
  p.enabled → '\n' ∉ p.authority.toList ∧ ∀ c ∈ p.certificate, '\n' ∉ c.toList

theorem Passes.lineFeed_notMem {x : Server} (h : p.Passes x) (hp : p.OneLine) :
    ∀ w ∈ (p.lineOf x).words, '\n' ∉ w.toList := by
  have hfeed {w : String} (hw : isUnbroken w) : '\n' ∉ w.toList :=
    notMem_of_isUnbroken hw (by decide)
  have hoptions : ∀ w ∈ ((p.lineOf x).tls.map Tls.words).getD [], '\n' ∉ w.toList :=
    h.forall_mem_options (by decide) (fun hname => hfeed hname.2) hp
  exact List.forall_mem_append.2 ⟨fun w hw => hfeed (h.isUnbroken_start w hw), hoptions⟩

theorem isUnbroken_of_keys {l : Listener} (hl : l ∈ p.listeners s) {x : Section}
    (hx : x ∈ l.sections) {k : Key} (hk : k ∈ x.keys) : isUnbroken k.host := by
  have hbackend : ∃ b ∈ l.backends, k = b.key := by
    rcases List.mem_cons.1 hx with rfl | hx
    · obtain ⟨b, hb, rfl⟩ := List.mem_map.1 hk
      exact ⟨b, hb, rfl⟩
    · obtain ⟨b, hb, rfl⟩ := List.mem_map.1 hx
      exact ⟨b, hb, List.mem_singleton.1 hk⟩
  obtain ⟨b, hb, rfl⟩ := hbackend
  have hservable : Servable b.key :=
    (((describes_listeners p s).keys b.key).1 ⟨l, hl, b, hb, rfl⟩).1
  exact Net.isUnbroken_of_isAddressChar hservable.isAddressChar

theorem lineFeed_notMem_document (hp : p.OneLine) :
    ∀ ws ∈ document (p.listeners s), ∀ w ∈ ws, '\n' ∉ w.toList := by
  have hfeed {w : String} (hw : isUnbroken w) : '\n' ∉ w.toList :=
    notMem_of_isUnbroken hw (by decide)
  intro ws hws
  rcases mem_document.1 hws with rfl | ⟨l, hl, x, hx, hws⟩
  · decide
  -- Only the lines of servers hold words that may be broken.
  have hkeys : ∀ k ∈ x.keys, isUnbroken k.host := fun k hk => isUnbroken_of_keys hl hx hk
  cases x with
  | frontend port inspects choices =>
    have hunbroken : (Section.frontend port inspects choices).Unbroken := hkeys
    exact fun w hw => hfeed (hunbroken.words ws hws w hw)
  | backend b =>
    have hb : b ∈ l.backends := by simpa [Listener.sections] using hx
    have hname : ∀ w ∈ ["backend", backendName b.key], '\n' ∉ w.toList := by
      have hkey := isUnbroken_backendName (hkeys b.key (by simp [Section.keys]))
      simp only [List.forall_mem_cons]
      exact ⟨by decide, hfeed hkey, by simp⟩
    have hservers : ∀ ws ∈ b.servers.map ServerLine.words, ∀ w ∈ ws, '\n' ∉ w.toList := by
      obtain ⟨servers, -, hservers⟩ := (describes_listeners p s).servers l hl b hb
      rw [hservers, List.map_map, List.forall_mem_map]
      intro x hx
      have hpasses : p.Passes x := of_decide_eq_true (List.mem_filter.1 hx).2
      exact hpasses.lineFeed_notMem hp
    exact List.forall_mem_cons.2 ⟨hname, List.forall_mem_cons.2 ⟨by decide, hservers⟩⟩ ws hws

end TlsPolicy

theorem Outline.names_choices (ls : List Listener) :
    ((ofListeners ls).frontends.flatMap Prod.snd).map Choice.name = (ofListeners ls).backends := by
  have hnames : (fun b : Backend => Choice.name (.ofKey b.key)) = fun b => backendName b.key :=
    funext fun b => Choice.name_ofKey b.key
  simp only [ofListeners, List.flatMap_map, List.map_flatMap, List.map_map, Function.comp_def,
    hnames]

namespace Describes

variable {p : TlsPolicy} {s : Snapshot} {ls : List Listener}

theorem underscore_notMem (h : Describes p s ls) {l : Listener} (hl : l ∈ ls) {b : Backend}
    (hb : b ∈ l.backends) : '_' ∉ b.key.host.toList :=
  Net.underscore_notMem_of_isAddressChar ((h.keys b.key).1 ⟨l, hl, b, hb, rfl⟩).1.isAddressChar

theorem nodup_frontends (h : Describes p s ls) :
    ((Outline.ofListeners ls).frontends.map Prod.fst).Nodup := by
  simp only [Outline.ofListeners, List.map_map]
  refine List.pairwise_map.2 (h.ports.imp fun {a b} hlt heq => ?_)
  have hport : a.port = b.port := reads_frontend.inj trivial trivial heq
  rw [hport] at hlt
  exact UInt16.lt_irrefl _ hlt

/-- Ports keep the names of two listeners apart, hosts those of one. -/
theorem nodup_backends (h : Describes p s ls) : (Outline.ofListeners ls).backends.Nodup := by
  have hnames : ∀ l ∈ ls, ∀ l' ∈ ls, ∀ b ∈ l.backends, ∀ b' ∈ l'.backends,
      backendName b.key = backendName b'.key → b.key = b'.key :=
    fun l hl l' hl' b hb b' hb' heq =>
      reads_key.inj (h.underscore_notMem hl hb) (h.underscore_notMem hl' hb') heq
  refine List.pairwise_map.2 (List.pairwise_flatMap.2 ⟨fun l hl => ?_, ?_⟩)
  · refine (h.hosts l hl).imp_of_mem fun {a b} ha hb hlt heq => ?_
    rw [hnames l hl l hl a ha b hb heq] at hlt
    exact List.lt_irrefl _ hlt
  · refine h.ports.imp_of_mem fun {l l'} hl hl' hlt b hb b' hb' heq => ?_
    rw [← (h.own l hl).2 b hb, ← (h.own l' hl').2 b' hb', hnames l hl l' hl' b hb b' hb' heq] at hlt
    exact UInt16.lt_irrefl _ hlt

/-- No host stands before the empty one. -/
theorem fallback (h : Describes p s ls) {l : Listener} (hl : l ∈ ls) :
    ∃ uses : List String, (l.backends.map fun b => Choice.ofKey b.key) = uses.map .use ∨
      ∃ name, (l.backends.map fun b => Choice.ofKey b.key) = .fallback name :: uses.map .use := by
  have huses (bs : List Backend) (hbs : ∀ b ∈ bs, b.key.host ≠ "") :
      (bs.map fun b => Choice.ofKey b.key) = (bs.map fun b => backendName b.key).map .use := by
    rw [List.map_map]
    exact List.map_congr_left fun b hb => if_neg (hbs b hb)
  have hhosts := h.hosts l hl
  cases hbackends : l.backends with
  | nil => exact ⟨[], .inl rfl⟩
  | cons b bs =>
    rw [hbackends] at hhosts
    have hbs : ∀ b' ∈ bs, b'.key.host ≠ "" := by
      intro b' hb' hempty
      have hlt := (List.pairwise_cons.1 hhosts).1 b' hb'
      have hnil : Utf8.bytes b'.key.host = [] := by
        rw [hempty, Utf8.bytes_eq]
        rfl
      rw [hnil] at hlt
      exact List.not_lt_nil _ hlt
    have htail := huses bs hbs
    by_cases hhost : b.key.host = ""
    · refine ⟨bs.map fun b => backendName b.key, .inr ⟨backendName b.key, ?_⟩⟩
      have hfirst : Choice.ofKey b.key = .fallback (backendName b.key) := if_pos hhost
      rw [List.map_cons, hfirst, htail]
    · exact ⟨_, .inl (huses (b :: bs) (List.forall_mem_cons.2 ⟨hhost, hbs⟩))⟩

theorem resolves (h : Describes p s ls) : (Outline.ofListeners ls).Resolves where
  frontends := h.nodup_frontends
  backends := h.nodup_backends
  fallback := List.forall_mem_map.2 fun _ hl => h.fallback hl
  found f hf c hc := by
    rw [← Outline.names_choices]
    exact List.mem_map_of_mem (List.mem_flatMap.2 ⟨f, hf, hc⟩)
  once name hname := by
    have hcount := List.count_eq_one_of_mem h.nodup_backends hname
    rw [← Outline.names_choices, List.count_eq_countP, List.countP_map] at hcount
    exact hcount
  own name hname := by
    obtain ⟨b, hb, rfl⟩ := List.mem_map.1 hname
    obtain ⟨l, hl, hb⟩ := List.mem_flatMap.1 hb
    refine ⟨b.key, rfl, _, List.mem_map_of_mem hl, ?_, _, List.mem_map_of_mem hb, ?_⟩
    · rw [(h.own l hl).2 b hb]
    · exact Choice.name_ofKey b.key

end Describes

/-- In the text of a rendering all names are found and go together, where the files that the policy
names do not break a line. -/
theorem TlsPolicy.OneLine.render_resolves {p : TlsPolicy} (hp : p.OneLine) (s : Snapshot) :
    ∃ o, outline? (p.render s).text = some o ∧ o.Resolves ∧
      ∀ name, name ∈ o.backends ↔ ∃ k servers,
        name = backendName k ∧ Servable k ∧ s.get? k = some servers ∧ servers ≠ [] := by
  have hdescribes := describes_listeners p s
  refine ⟨.ofListeners (p.listeners s), ?_, hdescribes.resolves, fun name => ?_⟩
  · have htext : (p.render s).text = written (p.listeners s) := configText_eq _
    rw [htext]
    exact outline?_written (fun l hl x hx k hk => isUnbroken_of_keys hl hx hk)
      (lineFeed_notMem_document hp)
  · have hkeys : name ∈ (Outline.ofListeners (p.listeners s)).backends ↔
        ∃ k, name = backendName k ∧ ∃ l ∈ p.listeners s, ∃ b ∈ l.backends, b.key = k := by
      simp only [Outline.ofListeners, List.mem_map, List.mem_flatMap]
      constructor
      · rintro ⟨b, ⟨l, hl, hb⟩, rfl⟩
        exact ⟨b.key, rfl, l, hl, b, hb, rfl⟩
      · rintro ⟨-, rfl, l, hl, b, hb, rfl⟩
        exact ⟨b, ⟨l, hl, hb⟩, rfl⟩
    simp only [hkeys, hdescribes.keys, exists_and_left]

/-- Hosts that continue the numbers of their ports. -/
def numbered : Snapshot := RouteMap.ofList [
  (⟨1, ""⟩, [.plain "10.0.0.1" 8080]),
  (⟨1, "0"⟩, [{ Server.plain "10.0.0.2" 8080 with tlsPort := 8443, instanceName := "i-1" }]),
  (⟨10, ""⟩, [.plain "10.0.0.3" 8080]),
  (⟨10, "1.0"⟩, [.plain "10.0.0.4" 8080])]

theorem numbered_resolves :
    (TlsPolicy.mk true "/my ca.pem" none).OneLine ∧
      ∃ o, outline? ((TlsPolicy.mk true "/my ca.pem" none).render numbered).text = some o ∧
        o.Resolves ∧ ∀ name, name ∈ o.backends ↔ ∃ k servers,
          name = backendName k ∧ Servable k ∧ numbered.get? k = some servers ∧ servers ≠ [] := by
  have hp : (TlsPolicy.mk true "/my ca.pem" none).OneLine := by
    intro _
    exact ⟨by decide, by simp⟩
  exact ⟨hp, hp.render_resolves numbered⟩

/-- The name of a file that ends the line of a server and starts a stanza of its own. -/
theorem stanza_in_authority_is_read :
    ¬ ∃ o, outline? ((TlsPolicy.mk true "/ca.pem\n\nbackend backend_80" none).render
        (RouteMap.ofList [(⟨80, ""⟩,
          [{ Server.plain "10.0.0.1" 8080 with tlsPort := 8443, instanceName := "i-1" }])])).text =
        some o ∧ o.Resolves := by
  have houtline : outline? ((TlsPolicy.mk true "/ca.pem\n\nbackend backend_80" none).render
      (RouteMap.ofList [(⟨80, ""⟩,
        [{ Server.plain "10.0.0.1" 8080 with tlsPort := 8443, instanceName := "i-1" }])])).text =
      some ⟨[("frontend_80", [.fallback "backend_80"])], ["backend_80", "backend_80"]⟩ := by
    decide +kernel
  rintro ⟨o, ho, hresolves⟩
  obtain rfl := Option.some.inj (houtline.symm.trans ho)
  exact absurd hresolves.backends (by decide)

end RouteSync.Proxy
