import RouteSync.Proofs.Proxy.ServerName
import RouteSync.Proofs.Text.Reader

/-! The stanzas of a proxy, read word by word: a text is taken exactly when it is written for what
was read from it. -/
namespace RouteSync.Proxy

open Text

/-- The words of a line, two empty ones first where the line is indented. -/
abbrev Words := List String

/-- A port that is listened on, as the text tells it. -/
structure Listener where
  port : UInt16
  inspects : Bool
  backends : List Backend
  deriving DecidableEq

/-- One stanza. That of a frontend names its backends, which stand in stanzas after it. -/
inductive Section where
  | frontend (port : UInt16) (inspects : Bool) (choices : List Key)
  | backend (b : Backend)
  deriving DecidableEq

/-! ### Names, made of parts with underscores between them -/

def keyParts (k : Key) : List String :=
  ["backend", toString k.port.toNat] ++ if k.host = "" then [] else [k.host]

def keyOf? : List String → Option Key
  | ["backend", port] => (portNumber? port).map (⟨·, ""⟩)
  | ["backend", port, host] => if host ≠ "" then (portNumber? port).map (⟨·, host⟩) else none
  | _ => none

def key? (name : String) : Option Key := keyOf? (cut '_' name)

def frontendParts (port : UInt16) : List String := ["frontend", toString port.toNat]

def frontendOf? : List String → Option UInt16
  | ["frontend", port] => portNumber? port
  | _ => none

def frontend? (name : String) : Option UInt16 := frontendOf? (cut '_' name)

def endpointParts (e : String × Nat) : List String := ["server", e.1, toString e.2]

def endpointOf? : List String → Option (String × Nat)
  | ["server", address, port] => (number? port).map (address, ·)
  | _ => none

def endpoint? (name : String) : Option (String × Nat) := endpointOf? (cut '_' name)

theorem reads_keyOf : Reads keyOf? keyParts (fun _ => True) := by
  intro parts k
  unfold keyOf? keyParts
  constructor
  · intro h
    split at h
    · obtain ⟨port, hport, rfl⟩ := Option.map_eq_some_iff.1 h
      obtain ⟨rfl, -⟩ := (reads_portNumber _ _).1 hport
      exact ⟨by simp, trivial⟩
    · obtain ⟨hhost, h⟩ := Option.ite_none_right_eq_some.1 h
      obtain ⟨port, hport, rfl⟩ := Option.map_eq_some_iff.1 h
      obtain ⟨rfl, -⟩ := (reads_portNumber _ _).1 hport
      exact ⟨by simp [hhost], trivial⟩
    · cases h
  · rintro ⟨rfl, -⟩
    have hport := (reads_portNumber (toString k.port.toNat) k.port).2 ⟨rfl, trivial⟩
    by_cases hhost : k.host = ""
    · rw [if_pos hhost]
      change (portNumber? (toString k.port.toNat)).map (⟨·, ""⟩) = some k
      rw [hport, Option.map_some, ← hhost]
    · rw [if_neg hhost]
      change (if k.host ≠ "" then (portNumber? (toString k.port.toNat)).map (⟨·, k.host⟩)
        else none) = some k
      rw [if_pos hhost, hport, Option.map_some]

theorem reads_frontendOf : Reads frontendOf? frontendParts (fun _ => True) := by
  intro parts port
  unfold frontendOf? frontendParts
  constructor
  · intro h
    split at h
    · obtain ⟨rfl, -⟩ := (reads_portNumber _ _).1 h
      exact ⟨rfl, trivial⟩
    · cases h
  · rintro ⟨rfl, -⟩
    exact (reads_portNumber _ _).2 ⟨rfl, trivial⟩

theorem reads_endpointOf : Reads endpointOf? endpointParts (fun _ => True) := by
  intro parts e
  unfold endpointOf? endpointParts
  constructor
  · intro h
    split at h
    · obtain ⟨port, hport, rfl⟩ := Option.map_eq_some_iff.1 h
      obtain ⟨rfl, -⟩ := (reads_number _ _).1 hport
      exact ⟨rfl, trivial⟩
    · cases h
  · rintro ⟨rfl, -⟩
    have hport := (reads_number (toString e.2) e.2).2 ⟨rfl, trivial⟩
    change (number? (toString e.2)).map (e.1, ·) = some e
    rw [hport, Option.map_some]

theorem reads_key : Reads key? backendName (fun k => '_' ∉ k.host.toList) := by
  refine ((reads_cut '_').bind reads_keyOf).congr (fun k => ?_) fun k => ?_
  · refine String.toList_inj.1 ?_
    by_cases hhost : k.host = "" <;> simp [toList_join, keyParts, backendName, hhost]
  · by_cases hhost : k.host = "" <;> simp [keyParts, hhost]

theorem reads_frontend :
    Reads frontend? (fun port => "frontend_" ++ toString port.toNat) (fun _ => True) := by
  refine ((reads_cut '_').bind reads_frontendOf).congr (fun port => ?_) fun port => ?_
  · refine String.toList_inj.1 ?_
    simp [toList_join, frontendParts]
  · simp [frontendParts]

theorem reads_endpoint : Reads endpoint? (fun e => "server_" ++ e.1 ++ "_" ++ toString e.2)
    (fun e => '_' ∉ e.1.toList) := by
  refine ((reads_cut '_').bind reads_endpointOf).congr (fun e => ?_) fun e => ?_
  · refine String.toList_inj.1 ?_
    simp [toList_join, endpointParts]
  · simp [endpointParts]

/-! ### Lines -/

def Tls.words (t : Tls) : Words :=
  ["ssl", "verify", "required", "verifyhost", t.instanceName, "ca-file", t.authority] ++
    (t.certificate.map (["crt", ·])).getD []

def tls? : Words → Option (Option Tls)
  | [] => some none
  | ["ssl", "verify", "required", "verifyhost", name, "ca-file", authority] =>
    some (some ⟨name, authority, none⟩)
  | ["ssl", "verify", "required", "verifyhost", name, "ca-file", authority, "crt", certificate] =>
    some (some ⟨name, authority, some certificate⟩)
  | _ => none

def ServerLine.words (s : ServerLine) : Words :=
  ["", "", "server", s.name, s.address ++ ":" ++ toString s.port] ++ (s.tls.map Tls.words).getD []

/-- No word is left empty but those of the indentation. -/
def server? : Words → Option ServerLine
  | "" :: "" :: "server" :: name :: place :: options =>
    (endpoint? name).bind fun e =>
      if e.1 ≠ "" ∧ place = e.1 ++ ":" ++ toString e.2 ∧ "" ∉ options then
        (tls? options).map (⟨e.1, e.2, ·⟩)
      else none
  | _ => none

def choiceWords (k : Key) : Words :=
  if k.host = "" then ["", "", "default_backend", backendName k]
  else ["", "", "use_backend", backendName k, "if", "\x7b", "req.ssl_sni", k.host, "\x7d"]

def choice? : Words → Option Key
  | ["", "", "default_backend", name] => (key? name).filter (·.host = "")
  | ["", "", "use_backend", name, "if", "\x7b", "req.ssl_sni", host, "\x7d"] =>
    if host ≠ "" then (key? name).filter (·.host = host) else none
  | _ => none

theorem reads_tls : Reads tls? (fun t => (t.map Tls.words).getD []) (fun _ => True) := by
  intro ws t
  unfold tls?
  constructor
  · intro h
    split at h
    · obtain rfl := Option.some.inj h
      exact ⟨rfl, trivial⟩
    · obtain rfl := Option.some.inj h
      exact ⟨rfl, trivial⟩
    · obtain rfl := Option.some.inj h
      exact ⟨rfl, trivial⟩
    · cases h
  · rintro ⟨rfl, -⟩
    match t with
    | none => rfl
    | some ⟨name, authority, none⟩ => rfl
    | some ⟨name, authority, some certificate⟩ => rfl

/-- A server line whose words are told apart. -/
structure ServerLine.Legible (s : ServerLine) : Prop where
  address : s.address ≠ ""
  oneWord : '_' ∉ s.address.toList
  options : "" ∉ (s.tls.map Tls.words).getD []

theorem reads_server : Reads server? ServerLine.words ServerLine.Legible := by
  intro ws s
  unfold server?
  constructor
  · intro h
    split at h
    · rename_i name place options
      obtain ⟨e, hname, h⟩ := Option.bind_eq_some_iff.1 h
      obtain ⟨⟨hne, hplace, hempty⟩, h⟩ := Option.ite_none_right_eq_some.1 h
      obtain ⟨tls, htls, rfl⟩ := Option.map_eq_some_iff.1 h
      obtain ⟨rfl, haddress⟩ := (reads_endpoint _ _).1 hname
      obtain ⟨rfl, -⟩ := (reads_tls _ _).1 htls
      exact ⟨by rw [hplace]; rfl, hne, haddress, hempty⟩
    · cases h
  · rintro ⟨rfl, hs⟩
    have hname : endpoint? s.name = some (s.address, s.port) :=
      (reads_endpoint _ _).2 ⟨rfl, hs.oneWord⟩
    have htls : tls? ((s.tls.map Tls.words).getD []) = some s.tls :=
      (reads_tls _ _).2 ⟨rfl, trivial⟩
    simp only [ServerLine.words, List.cons_append, List.nil_append, hname, htls, Option.bind_some]
    exact if_pos ⟨hs.address, trivial, hs.options⟩

theorem reads_choice : Reads choice? choiceWords (fun k => '_' ∉ k.host.toList) := by
  intro ws k
  unfold choice? choiceWords
  constructor
  · intro h
    split at h
    · rename_i name
      obtain ⟨hname, hhost⟩ := Option.filter_eq_some_iff.1 h
      obtain ⟨rfl, hword⟩ := (reads_key _ _).1 hname
      rw [if_pos (of_decide_eq_true hhost)]
      exact ⟨rfl, hword⟩
    · rename_i name host
      obtain ⟨hne, h⟩ := Option.ite_none_right_eq_some.1 h
      obtain ⟨hname, hhost⟩ := Option.filter_eq_some_iff.1 h
      obtain ⟨rfl, hword⟩ := (reads_key _ _).1 hname
      obtain rfl := of_decide_eq_true hhost
      rw [if_neg hne]
      exact ⟨rfl, hword⟩
    · cases h
  · rintro ⟨rfl, hword⟩
    have hname : key? (backendName k) = some k := (reads_key _ _).2 ⟨rfl, hword⟩
    by_cases hhost : k.host = ""
    · rw [if_pos hhost]
      simp [hname, hhost]
    · rw [if_neg hhost]
      simp [hname, hhost]

example : (words? "  use_backend backend_80_a.b if \x7b req.ssl_sni a.b \x7d").bind choice? =
    some ⟨80, "a.b"⟩ := by decide +kernel

example : (words? "  default_backend  backend_80").bind choice? = none := by decide +kernel

/-! ### Stanzas -/

def mode : Words := ["", "", "mode", "tcp"]

def inspectionWords : List Words :=
  [["", "", "tcp-request", "inspect-delay", "5s"],
    ["", "", "tcp-request", "content", "accept", "if", "\x7b", "req.ssl_hello_type", "gt", "0",
      "\x7d"]]

/-- Whether the start of a connection is read, and the lines after those that say so. -/
def inspected (ls : List Words) : Bool × List Words :=
  if inspectionWords.isPrefixOf ls then (true, ls.drop inspectionWords.length) else (false, ls)

def Section.lines : Section → List Words
  | .frontend port inspects choices =>
    ["frontend", "frontend_" ++ toString port.toNat] :: mode ::
      ["", "", "bind", ":" ++ toString port.toNat] ::
      ((if inspects then inspectionWords else []) ++ choices.map choiceWords)
  | .backend b => ["backend", backendName b.key] :: mode :: b.servers.map ServerLine.words

def section? : List Words → Option Section
  | ["frontend", name] :: ["", "", "mode", "tcp"] :: ["", "", "bind", place] :: rest =>
    (frontend? name).bind fun port =>
      if place = ":" ++ toString port.toNat then
        ((inspected rest).2.mapM choice?).map (.frontend port (inspected rest).1 ·)
      else none
  | ["backend", name] :: ["", "", "mode", "tcp"] :: rest =>
    (key? name).bind fun k => (rest.mapM server?).map fun servers => .backend ⟨k, servers⟩
  | _ => none

def Section.Legible : Section → Prop
  | .frontend _ _ choices => ∀ k ∈ choices, '_' ∉ k.host.toList
  | .backend b => '_' ∉ b.key.host.toList ∧ ∀ s ∈ b.servers, s.Legible

theorem append_inspected (ls : List Words) :
    (if (inspected ls).1 then inspectionWords else []) ++ (inspected ls).2 = ls := by
  unfold inspected
  split
  · rename_i h
    obtain ⟨rest, rfl⟩ := List.isPrefixOf_iff_prefix.1 h
    rw [List.drop_left]
    rfl
  · rfl

theorem inspected_choices (inspects : Bool) (choices : List Key) :
    inspected ((if inspects then inspectionWords else []) ++ choices.map choiceWords) =
      (inspects, choices.map choiceWords) := by
  cases inspects with
  | true =>
    have h : inspectionWords.isPrefixOf (inspectionWords ++ choices.map choiceWords) :=
      List.isPrefixOf_iff_prefix.2 (List.prefix_append _ _)
    rw [if_pos rfl, inspected, if_pos h, List.drop_left]
  | false =>
    -- The third word of a choice tells it from the first line of an inspection.
    have h : ¬ inspectionWords.isPrefixOf (choices.map choiceWords) := by
      cases choices with
      | nil => decide
      | cons k choices => by_cases hhost : k.host = "" <;> simp [inspectionWords, choiceWords, hhost]
    rw [if_neg (by decide), List.nil_append, inspected, if_neg h]

theorem reads_section : Reads section? Section.lines Section.Legible := by
  intro ls x
  constructor
  · intro h
    unfold section? at h
    split at h
    · rename_i name place rest
      obtain ⟨port, hname, h⟩ := Option.bind_eq_some_iff.1 h
      obtain ⟨hplace, h⟩ := Option.ite_none_right_eq_some.1 h
      obtain ⟨choices, hchoices, rfl⟩ := Option.map_eq_some_iff.1 h
      obtain ⟨rfl, -⟩ := (reads_frontend _ _).1 hname
      obtain ⟨hrest, hlegible⟩ := (reads_choice.mapM _ _).1 hchoices
      refine ⟨?_, hlegible⟩
      rw [Section.lines, ← hrest, append_inspected, mode, hplace]
    · rename_i name rest
      obtain ⟨k, hname, h⟩ := Option.bind_eq_some_iff.1 h
      obtain ⟨servers, hservers, rfl⟩ := Option.map_eq_some_iff.1 h
      obtain ⟨rfl, hkey⟩ := (reads_key _ _).1 hname
      obtain ⟨rfl, hlegible⟩ := (reads_server.mapM _ _).1 hservers
      exact ⟨rfl, hkey, hlegible⟩
    · cases h
  · rintro ⟨rfl, hlegible⟩
    cases x with
    | frontend port inspects choices =>
      have hname := (reads_frontend _ port).2 ⟨rfl, trivial⟩
      have hchoices := (reads_choice.mapM _ choices).2 ⟨rfl, hlegible⟩
      simp only [Section.lines, mode, section?, hname, Option.bind_some, if_pos,
        inspected_choices, hchoices, Option.map_some]
    | backend b =>
      have hname := (reads_key _ b.key).2 ⟨rfl, hlegible.1⟩
      have hservers := (reads_server.mapM _ b.servers).2 ⟨rfl, hlegible.2⟩
      simp only [Section.lines, mode, section?, hname, Option.bind_some, hservers,
        Option.map_some]

/-- A blank line stands before every stanza. -/
def blank : Words := [""]

/-- What stands between the blank lines of a text that ends in one more. -/
def blocks? (page : List Words) : Option (List (List Words)) :=
  match splitOn blank page with
  | [] :: rest => if rest.getLast? = some [] then some rest.dropLast else none
  | _ => none

theorem reads_blocks : Reads blocks? (fun bs => bs.flatMap (blank :: ·) ++ [blank])
    (fun bs => ∀ b ∈ bs, blank ∉ b) := by
  have hjoin (bs : List (List Words)) :
      [blank].intercalate ([] :: (bs ++ [[]])) = bs.flatMap (blank :: ·) ++ [blank] := by
    rw [intercalate_cons, List.flatMap_append]
    rfl
  intro page bs
  constructor
  · intro h
    unfold blocks? at h
    split at h
    · rename_i rest hsplit
      obtain ⟨hlast, hbs⟩ := Option.ite_none_right_eq_some.1 h
      obtain ⟨front, rfl⟩ := List.getLast?_eq_some_iff.1 hlast
      obtain rfl := Option.some.inj hbs
      obtain ⟨hpage, -, hparts⟩ := splitOn_eq_iff.1 hsplit
      rw [List.dropLast_concat]
      refine ⟨hpage.trans (hjoin front), fun b hb => hparts b ?_⟩
      exact List.mem_cons_of_mem _ (List.mem_append_left _ hb)
    · cases h
  · rintro ⟨rfl, hbs⟩
    have hparts : ∀ b ∈ [] :: (bs ++ [[]]), blank ∉ b := by
      simpa [or_imp, forall_and] using hbs
    have hsplit : splitOn blank (bs.flatMap (blank :: ·) ++ [blank]) = [] :: (bs ++ [[]]) :=
      splitOn_eq_iff.2 ⟨(hjoin bs).symm, List.cons_ne_nil _ _, hparts⟩
    simp [blocks?, hsplit]

/-! ### Listeners -/

def Listener.sections (l : Listener) : List Section :=
  .frontend l.port l.inspects (l.backends.map Backend.key) :: l.backends.map .backend

/-- The backends before the first frontend, and the listeners from there on. -/
def gather : List Section → Option (List Backend × List Listener)
  | [] => some ([], [])
  | .backend b :: rest => (gather rest).map fun g => (b :: g.1, g.2)
  | .frontend port inspects choices :: rest =>
    (gather rest).bind fun g =>
      if choices = g.1.map Backend.key then some ([], ⟨port, inspects, g.1⟩ :: g.2) else none

def listeners? (xs : List Section) : Option (List Listener) :=
  (gather xs).bind fun g => if g.1 = [] then some g.2 else none

theorem reads_gather : Reads gather
    (fun g => g.1.map .backend ++ g.2.flatMap Listener.sections) (fun _ => True) := by
  intro xs
  induction xs with
  | nil =>
    rintro ⟨bs, ls⟩
    cases bs <;> cases ls <;> simp [gather, Listener.sections]
  | cons x rest ih =>
    have hrest (bs : List Backend) (ls : List Listener) : gather rest = some (bs, ls) ↔
        rest = bs.map .backend ++ ls.flatMap Listener.sections := by
      simpa using ih (bs, ls)
    rintro ⟨bs, ls⟩
    cases x with
    | backend b =>
      cases bs with
      | nil => cases ls <;> simp [gather, Listener.sections]
      | cons b' bs =>
        have hback : gather (.backend b :: rest) = some (b' :: bs, ls) ↔
            b = b' ∧ gather rest = some (bs, ls) := by
          rw [gather, Option.map_eq_some_iff]
          constructor
          · rintro ⟨g, hg, heq⟩
            obtain ⟨hcons, rfl⟩ := Prod.mk.inj heq
            obtain ⟨rfl, rfl⟩ := List.cons.inj hcons
            exact ⟨rfl, hg⟩
          · rintro ⟨rfl, hg⟩
            exact ⟨_, hg, rfl⟩
        rw [hback, hrest]
        simp
    | frontend port inspects choices =>
      have hfront : gather (.frontend port inspects choices :: rest) = some (bs, ls) ↔
          ∃ bs' ls', rest = bs'.map .backend ++ ls'.flatMap Listener.sections ∧
            choices = bs'.map Backend.key ∧ [] = bs ∧ ⟨port, inspects, bs'⟩ :: ls' = ls := by
        simp only [gather, Option.bind_eq_some_iff, Prod.exists, hrest,
          Option.ite_none_right_eq_some, Option.some_inj, Prod.mk.injEq]
      rw [hfront, and_true]
      constructor
      · rintro ⟨bs', ls', rfl, rfl, rfl, rfl⟩
        rfl
      · intro h
        -- The frontend takes all backends after it, so that none is left in front.
        cases bs with
        | cons b bs => cases (List.cons.inj h).1
        | nil =>
          cases ls with
          | nil => cases h
          | cons l ls =>
            obtain ⟨hfirst, htail⟩ := List.cons.inj h
            obtain ⟨rfl, rfl, rfl⟩ := Section.frontend.inj hfirst
            exact ⟨l.backends, ls, htail, rfl, rfl, rfl⟩

theorem reads_listeners :
    Reads listeners? (List.flatMap Listener.sections) (fun _ => True) := by
  have hall : Reads (fun g : List Backend × List Listener => if g.1 = [] then some g.2 else none)
      (fun ls => ([], ls)) (fun _ => True) := by
    rintro ⟨bs, ls⟩ ls'
    simp
  exact (reads_gather.bind hall).congr (fun _ => rfl) fun _ => by simp

/-- The lines of a text that is made of listeners. -/
def document (ls : List Listener) : List Words :=
  ((ls.flatMap Listener.sections).map Section.lines).flatMap (blank :: ·) ++ [blank]

def written (ls : List Listener) : String := join '\n' ((document ls).map (join ' '))

def read? (text : String) : Option (List Listener) :=
  (page? text).bind fun page => (blocks? page).bind fun bs =>
    (bs.mapM section?).bind listeners?

/-- Listeners whose text tells them. -/
structure Legible (ls : List Listener) : Prop where
  words : ∀ ws ∈ document ls, ∀ w ∈ ws, isUnbroken w
  sections : ∀ l ∈ ls, ∀ x ∈ l.sections, x.Legible

/-- A blank line is the only one of fewer than two words. -/
theorem Section.lt_length_of_mem_lines {x : Section} {ws : Words} (h : ws ∈ x.lines) :
    1 < ws.length := by
  cases x with
  | frontend port inspects choices =>
    simp only [lines, List.mem_cons, List.mem_append, List.mem_map] at h
    rcases h with rfl | rfl | rfl | h | ⟨k, -, rfl⟩
    · exact Nat.lt_succ_self 1
    · decide
    · simp
    · cases inspects with
      | true => exact (by decide : ∀ ws ∈ inspectionWords, 1 < ws.length) ws h
      | false => cases h
    · unfold choiceWords
      split <;> simp
  | backend b =>
    simp only [lines, List.mem_cons, List.mem_map] at h
    rcases h with rfl | rfl | ⟨s, -, rfl⟩
    · exact Nat.lt_succ_self 1
    · decide
    · simp [ServerLine.words]

theorem mem_document {ls : List Listener} {ws : Words} :
    ws ∈ document ls ↔ ws = blank ∨ ∃ l ∈ ls, ∃ x ∈ l.sections, ws ∈ x.lines := by
  simp only [document, List.mem_append, List.mem_flatMap, List.mem_map, List.mem_singleton]
  constructor
  · rintro (⟨lines, ⟨x, ⟨l, hl, hx⟩, rfl⟩, hws⟩ | rfl)
    · rcases List.mem_cons.1 hws with rfl | hws
      · exact .inl rfl
      · exact .inr ⟨l, hl, x, hx, hws⟩
    · exact .inl rfl
  · rintro (rfl | ⟨l, hl, x, hx, hws⟩)
    · exact .inr rfl
    · exact .inl ⟨x.lines, ⟨x, ⟨l, hl, hx⟩, rfl⟩, List.mem_cons_of_mem _ hws⟩

/-- Reading takes what is written for legible listeners and gives them back. -/
theorem reads_written : Reads read? written Legible := by
  have h := reads_page.bind (reads_blocks.bind (reads_section.mapM.bind reads_listeners))
  refine h.congr (fun _ => rfl) fun ls => ?_
  constructor
  · rintro ⟨⟨-, hpage⟩, -, hsections, -⟩
    refine ⟨fun ws hws => (hpage ws hws).2, fun l hl x hx => hsections x ?_⟩
    exact List.mem_flatMap.2 ⟨l, hl, hx⟩
  · intro hls
    have hwords : ∀ ws ∈ document ls, ws ≠ [] := by
      rintro ws hws rfl
      rcases mem_document.1 hws with hblank | ⟨l, -, x, -, hws⟩
      · cases hblank
      · exact absurd (Section.lt_length_of_mem_lines hws) (by decide)
    have hblocks : ∀ b ∈ (ls.flatMap Listener.sections).map Section.lines, blank ∉ b := by
      rintro b hb hblank
      obtain ⟨x, -, rfl⟩ := List.mem_map.1 hb
      exact absurd (Section.lt_length_of_mem_lines hblank) (by decide)
    refine ⟨⟨by simp, fun ws hws => ⟨hwords ws hws, hls.words ws hws⟩⟩, hblocks, ?_, trivial⟩
    intro x hx
    obtain ⟨l, hl, hx⟩ := List.mem_flatMap.1 hx
    exact hls.sections l hl x hx

end RouteSync.Proxy
