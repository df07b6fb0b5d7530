import RouteSync.Proofs.Table.Interleaving
import RouteSync.Proofs.Table.Truth

/-! Records that can be ranked: the one with the highest index is kept of those of an endpoint, in
whatever order they come and however often. -/
namespace RouteSync

namespace Server

/-- Records of one endpoint are the same, or told apart by their indexes under one guid. -/
def Ranked (ss : List Server) : Prop :=
  ∀ a ∈ ss, ∀ b ∈ ss, a.endpoint = b.endpoint →
    a = b ∨ (a.tag.guid = b.tag.guid ∧ a.tag.index ≠ b.tag.index)

variable {ss ss' : List Server} {a b s : Server} {p : String × UInt16}

theorem Ranked.of_subset (h : Ranked ss) (hsub : ss' ⊆ ss) : Ranked ss' :=
  fun a ha b hb => h a (hsub ha) b (hsub hb)

theorem Ranked.guid_eq (h : Ranked ss) (ha : a ∈ ss) (hb : b ∈ ss)
    (hend : a.endpoint = b.endpoint) : a.tag.guid = b.tag.guid := by
  rcases h a ha b hb hend with rfl | ⟨hguid, -⟩
  · rfl
  · exact hguid

theorem Ranked.eq_of_index_eq (h : Ranked ss) (ha : a ∈ ss) (hb : b ∈ ss)
    (hend : a.endpoint = b.endpoint) (hindex : a.tag.index = b.tag.index) : a = b := by
  rcases h a ha b hb hend with heq | ⟨-, hne⟩
  · exact heq
  · exact absurd hindex hne

theorem Ranked.succeeds_iff (h : Ranked ss) (ha : a ∈ ss) (hb : b ∈ ss)
    (hend : a.endpoint = b.endpoint) :
    a.tag.succeeds b.tag = true ↔ b.tag.index < a.tag.index := by
  have hguid := h.guid_eq ha hb hend
  rw [Tag.succeeds_iff]
  exact ⟨fun hlt => hlt hguid.symm, fun hlt _ => hlt⟩

/-- Of two records of an endpoint none has a higher index than the newer one. -/
theorem Ranked.le_newest (h : Ranked ss) (ha : a ∈ ss) (hb : b ∈ ss)
    (hend : a.endpoint = b.endpoint) :
    a.tag.index ≤ (a.newest (some b)).tag.index ∧
      b.tag.index ≤ (a.newest (some b)).tag.index := by
  have hsucceeds := h.succeeds_iff ha hb hend
  simp only [newest]
  split
  · rename_i hlt
    exact ⟨UInt32.le_refl _, UInt32.le_of_lt (hsucceeds.1 hlt)⟩
  · rename_i hnot
    exact ⟨UInt32.not_lt.1 (mt hsucceeds.2 hnot), UInt32.le_refl _⟩

theorem latest_concat (p : String × UInt16) (kept : Option Server) (ss : List Server)
    (s : Server) :
    latest p kept (ss ++ [s]) =
      if s.endpoint = p then some (s.newest (latest p kept ss)) else latest p kept ss := by
  rw [latest, List.foldl_append]
  rfl

/-- No record of the endpoint has a higher index than the one that is kept. -/
theorem Ranked.le_latest (h : Ranked ss) (hs : latest p none ss = some s) :
    ∀ a ∈ ss, a.endpoint = p → a.tag.index ≤ s.tag.index := by
  induction ss using List.reverseRecOn generalizing s with
  | nil => cases hs
  | append_singleton ss c ih =>
    have hinit : Ranked ss := h.of_subset (List.subset_append_left ss [c])
    rw [latest_concat] at hs
    intro a ha hap
    rw [List.mem_append, List.mem_singleton] at ha
    by_cases hend : c.endpoint = p
    · rw [if_pos hend] at hs
      obtain rfl := Option.some.inj hs
      cases hold : latest p none ss with
      | none =>
        obtain ⟨-, hnone⟩ := latest_eq_none_iff.1 hold
        obtain rfl := ha.resolve_left fun ha => hnone a ha hap
        exact UInt32.le_refl _
      | some old =>
        obtain ⟨hmem, hp⟩ := (mem_of_latest hold).resolve_right nofun
        obtain ⟨hnew, hkept⟩ := h.le_newest (List.mem_append_right ss List.mem_cons_self)
          (List.mem_append_left [c] hmem) (hend.trans hp.symm)
        rcases ha with ha | rfl
        · exact UInt32.le_trans (ih hinit hold a ha hap) hkept
        · exact hnew
    · rw [if_neg hend] at hs
      rcases ha with ha | rfl
      · exact ih hinit hs a ha hap
      · exact absurd hap hend

theorem Ranked.latest_eq_some_iff (h : Ranked ss) :
    latest p none ss = some s ↔
      s ∈ ss ∧ s.endpoint = p ∧ ∀ a ∈ ss, a.endpoint = p → a.tag.index ≤ s.tag.index := by
  constructor
  · intro hs
    obtain ⟨hmem, hp⟩ := (mem_of_latest hs).resolve_right nofun
    exact ⟨hmem, hp, h.le_latest hs⟩
  · rintro ⟨hmem, hp, hmax⟩
    cases hl : latest p none ss with
    | none => exact absurd hp ((latest_eq_none_iff.1 hl).2 s hmem)
    | some c =>
      obtain ⟨hc, hcp⟩ := (mem_of_latest hl).resolve_right nofun
      have hindex := UInt32.le_antisymm (hmax c hc hcp) (h.le_latest hl s hmem hp)
      rw [h.eq_of_index_eq hc hmem (hcp.trans hp.symm) hindex]

/-- The same records in another order, or more of each, come to the same. -/
theorem Ranked.latest_congr (h : Ranked ss) (hmem : ∀ s, s ∈ ss ↔ s ∈ ss') :
    latest p none ss = latest p none ss' := by
  have h' : Ranked ss' := h.of_subset fun s hs => (hmem s).2 hs
  ext s
  rw [h.latest_eq_some_iff, h'.latest_eq_some_iff]
  simp only [hmem]

end Server

/-- Mappings of one key and endpoint name the same server, or servers that are told apart by their
indexes under one guid. -/
def Mapping.Ranked (ms : List Mapping) : Prop :=
  ∀ m ∈ ms, ∀ m' ∈ ms, ∀ k s s', m.route = .ok (k, s) → m'.route = .ok (k, s') →
    s.endpoint = s'.endpoint →
      s = s' ∨ (s.tag.guid = s'.tag.guid ∧ s.tag.index ≠ s'.tag.index)

/-- The routes that some mappings describe, in order. -/
def Mapping.routes (ms : List Mapping) : List (Key × Server) :=
  ms.filterMap fun m => m.route.toOption

theorem Mapping.mem_routes_iff {ms : List Mapping} {r : Key × Server} :
    r ∈ routes ms ↔ ∃ m ∈ ms, m.route = .ok r := by
  rw [routes, List.mem_filterMap]
  refine exists_congr fun m => and_congr_right fun _ => ?_
  cases m.route <;> simp [Except.toOption]

theorem Mapping.ranked_iff {ms : List Mapping} :
    Ranked ms ↔ ∀ r ∈ routes ms, ∀ r' ∈ routes ms, r.1 = r'.1 → r.2.endpoint = r'.2.endpoint →
      r.2 = r'.2 ∨ (r.2.tag.guid = r'.2.tag.guid ∧ r.2.tag.index ≠ r'.2.tag.index) := by
  constructor
  · rintro h ⟨k, s⟩ hr ⟨k', s'⟩ hr' rfl
    obtain ⟨m, hm, hroute⟩ := mem_routes_iff.1 hr
    obtain ⟨m', hm', hroute'⟩ := mem_routes_iff.1 hr'
    exact h m hm m' hm' k s s' hroute hroute'
  · intro h m hm m' hm' k s s' hroute hroute'
    exact h (k, s) (mem_routes_iff.2 ⟨m, hm, hroute⟩) (k, s') (mem_routes_iff.2 ⟨m', hm', hroute'⟩)
      rfl

instance (ms : List Mapping) : Decidable (Mapping.Ranked ms) :=
  decidable_of_iff _ Mapping.ranked_iff.symm

theorem Mapping.mem_servers_iff {ms : List Mapping} {k : Key} {s : Server} :
    s ∈ ms.filterMap (serverFor k) ↔ ∃ m ∈ ms, m.route = .ok (k, s) := by
  simp only [List.mem_filterMap, serverFor_eq_some_iff]

theorem Mapping.Ranked.servers {ms : List Mapping} (h : Ranked ms) (k : Key) :
    Server.Ranked (ms.filterMap (serverFor k)) := by
  intro a ha b hb hend
  obtain ⟨m, hm, hroute⟩ := mem_servers_iff.1 ha
  obtain ⟨m', hm', hroute'⟩ := mem_servers_iff.1 hb
  exact h m hm m' hm' k a b hroute hroute' hend

/-- Of the servers that some mappings name for a key, `s` has the highest index at its endpoint. -/
def Mapping.Highest (ms : List Mapping) (k : Key) (s : Server) : Prop :=
  (∃ m ∈ ms, m.route = .ok (k, s)) ∧
    ∀ m ∈ ms, ∀ a, m.route = .ok (k, a) → a.endpoint = s.endpoint → a.tag.index ≤ s.tag.index

/-- Upserts that deliver each of some mappings at least once, and no other. -/
structure Delivers (es : List TimedEvent) (ms : List Mapping) : Prop where
  upserts : ∀ e ∈ es, e.1.action = .upsert
  mappings : ∀ m, (∃ e ∈ es, e.1.mapping = m) ↔ m ∈ ms

theorem Delivers.mem_servers_iff {es : List TimedEvent} {ms : List Mapping} (h : Delivers es ms)
    {k : Key} {s : Server} :
    s ∈ es.filterMap (·.1.mapping.serverFor k) ↔ ∃ m ∈ ms, m.route = .ok (k, s) := by
  simp only [List.mem_filterMap, Mapping.serverFor_eq_some_iff, ← h.mappings]
  constructor
  · rintro ⟨e, he, hroute⟩
    exact ⟨e.1.mapping, ⟨e, he, rfl⟩, hroute⟩
  · rintro ⟨m, ⟨e, he, rfl⟩, hroute⟩
    exact ⟨e, he, hroute⟩

theorem Delivers.latest_eq_some_iff {es : List TimedEvent} {ms : List Mapping}
    (h : Delivers es ms) (hms : Mapping.Ranked ms) {k : Key} {s : Server} :
    Server.latest s.endpoint none (es.filterMap (·.1.mapping.serverFor k)) = some s ↔
      Mapping.Highest ms k s := by
  have hranked : Server.Ranked (es.filterMap (·.1.mapping.serverFor k)) :=
    (hms.servers k).of_subset fun a ha =>
      Mapping.mem_servers_iff.2 (h.mem_servers_iff.1 ha)
  rw [hranked.latest_eq_some_iff, Mapping.Highest]
  simp only [h.mem_servers_iff, true_and]
  exact and_congr_right fun _ =>
    ⟨fun hmax m hm a hroute => hmax a ⟨m, hm, hroute⟩,
      fun hmax a ⟨m, hm, hroute⟩ => hmax m hm a hroute⟩

namespace Table

variable {t : Table} {k : Key}

theorem get?_apply_upsert {e : Event} (h : e.action = .upsert) (t : Table) (now : Nat) (k : Key) :
    (t.apply e now).table.get? k =
      match e.mapping.serverFor k with
      | none => t.get? k
      | some s => some ((t.entry k).upsert now s).entry := by
  cases hr : e.mapping.route with
  | error why =>
    rw [(apply_of_error hr t now).1]
    simp [Mapping.serverFor, hr]
  | ok route =>
    obtain ⟨k', s⟩ := route
    rw [(apply_of_route hr t now).1, get?_store, h]
    by_cases hk : k = k'
    · subst hk
      simp [Mapping.serverFor, hr, Action.edit, Entry.upsert_ne_nil]
    · simp [Mapping.serverFor, hr, hk, Ne.symm hk]

/-- Upserts put the newest of their records at each endpoint of a key. -/
theorem get?_follow_upserts {es : List TimedEvent} (h : ∀ e ∈ es, e.1.action = .upsert)
    (t : Table) (k : Key) :
    (es.filterMap (·.1.mapping.serverFor k) = [] ∧ (t.follow es).get? k = t.get? k) ∨
      (es.filterMap (·.1.mapping.serverFor k) ≠ [] ∧
        ∃ entry, (t.follow es).get? k = some entry ∧ ((t.entry k).Distinct → entry.Distinct) ∧
          ∀ p, entry.server? p =
            Server.latest p (t.server? k p) (es.filterMap (·.1.mapping.serverFor k))) := by
  induction es generalizing t with
  | nil => exact .inl ⟨rfl, rfl⟩
  | cons e es ih =>
    obtain ⟨he, hes⟩ := List.forall_mem_cons.1 h
    have hget := get?_apply_upsert he t e.2 k
    have hrest := ih hes (t.apply e.1 e.2).table
    rw [follow_cons, List.filterMap_cons]
    cases hs : e.1.mapping.serverFor k with
    | none =>
      rw [hs] at hget
      have hentry : (t.apply e.1 e.2).table.entry k = t.entry k := by rw [entry, hget, entry]
      rcases hrest with ⟨hnil, hrest⟩ | ⟨hne, entry, hrest, hdistinct, hlatest⟩
      · exact .inl ⟨hnil, hrest.trans hget⟩
      · refine .inr ⟨hne, entry, hrest, hentry ▸ hdistinct, fun p => ?_⟩
        rw [hlatest, server?, hentry, server?]
    | some s =>
      rw [hs] at hget
      have hentry := entry_of_get? hget
      refine .inr ⟨List.cons_ne_nil _ _, ?_⟩
      rcases hrest with ⟨hnil, hrest⟩ | ⟨-, entry, hrest, hdistinct, hlatest⟩
      · refine ⟨_, hrest.trans hget, fun hd => hd.upsert e.2 s, fun p => ?_⟩
        rw [hnil, Server.latest_cons, Server.latest_nil, Entry.server?_upsert]
        rfl
      · refine ⟨entry, hrest, fun hd => hdistinct (hentry ▸ hd.upsert e.2 s), fun p => ?_⟩
        rw [hlatest, server?, hentry, Server.latest_cons, Entry.server?_upsert]
        rfl

section Delivered

variable {ms : List Mapping} {es es' : List TimedEvent}

theorem get?_follow_of_named (hms : Mapping.Ranked ms) (hes : Delivers es ms)
    (habsent : t.get? k = none) (hnamed : ∃ m ∈ ms, ∃ s, m.route = .ok (k, s)) :
    ∃ entry, (t.follow es).get? k = some entry ∧ entry.Distinct ∧
      ∀ s, s ∈ entry.servers ↔ Mapping.Highest ms k s := by
  have hnone : t.entry k = [] := entry_of_get?_eq_none habsent
  rcases get?_follow_upserts hes.upserts t k with ⟨hnil, -⟩ | ⟨-, entry, hget, hdistinct, hlatest⟩
  · obtain ⟨m, hm, s, hroute⟩ := hnamed
    have hmem := hes.mem_servers_iff.2 ⟨m, hm, hroute⟩
    rw [hnil] at hmem
    cases hmem
  · rw [hnone] at hdistinct
    have hd : entry.Distinct := hdistinct List.nodup_nil
    refine ⟨entry, hget, hd, fun s => ?_⟩
    rw [hd.mem_servers_iff, hlatest, server?, hnone, Entry.server?_nil,
      hes.latest_eq_some_iff hms]

theorem get?_follow_of_unnamed (hes : Delivers es ms)
    (hunnamed : ∀ m ∈ ms, ∀ s, m.route ≠ .ok (k, s)) (t : Table) :
    (t.follow es).get? k = t.get? k := by
  have hnone : es.filterMap (·.1.mapping.serverFor k) = [] :=
    List.eq_nil_iff_forall_not_mem.2 fun s hs => by
      obtain ⟨m, hm, hroute⟩ := hes.mem_servers_iff.1 hs
      exact hunnamed m hm s hroute
  rcases get?_follow_upserts hes.upserts t k with ⟨-, hsame⟩ | ⟨hne, -⟩
  · exact hsame
  · exact absurd hnone hne

/-- However some mappings are delivered, each key that they name gets the servers with the highest
indexes, one for each endpoint, and all other keys stay as they are. -/
theorem follow_delivered (hms : Mapping.Ranked ms)
    (habsent : ∀ m ∈ ms, ∀ k s, m.route = .ok (k, s) → t.get? k = none)
    (hes : Delivers es ms) (hes' : Delivers es' ms) :
    (∀ k, (∃ m ∈ ms, ∃ s, m.route = .ok (k, s)) →
      ∃ entry, (t.follow es).get? k = some entry ∧ entry.Distinct ∧
        ∀ s, s ∈ entry.servers ↔ Mapping.Highest ms k s) ∧
    (∀ k, (∀ m ∈ ms, ∀ s, m.route ≠ .ok (k, s)) → (t.follow es).get? k = t.get? k) ∧
    ∀ k s, s ∈ ((t.follow es).entry k).servers ↔ s ∈ ((t.follow es').entry k).servers := by
  have hnamed (k : Key) (hk : ∃ m ∈ ms, ∃ s, m.route = .ok (k, s)) : t.get? k = none := by
    obtain ⟨m, hm, s, hroute⟩ := hk
    exact habsent m hm k s hroute
  refine ⟨fun k hk => get?_follow_of_named hms hes (hnamed k hk) hk,
    fun k hk => get?_follow_of_unnamed hes hk t, fun k s => ?_⟩
  by_cases hk : ∃ m ∈ ms, ∃ s, m.route = .ok (k, s)
  · obtain ⟨entry, hget, -, hservers⟩ := get?_follow_of_named hms hes (hnamed k hk) hk
    obtain ⟨entry', hget', -, hservers'⟩ := get?_follow_of_named hms hes' (hnamed k hk) hk
    rw [entry_of_get? hget, entry_of_get? hget', hservers, hservers']
  · have hunnamed : ∀ m ∈ ms, ∀ s, m.route ≠ .ok (k, s) :=
      fun m hm s hroute => hk ⟨m, hm, s, hroute⟩
    rw [Table.entry, Table.entry, get?_follow_of_unnamed hes hunnamed,
      get?_follow_of_unnamed hes' hunnamed]

/-- Three records of a server come among those of another, some of them twice, the newest of them
first or last. -/
theorem follow_repeated_out_of_order :
    let record (index : UInt32) : Mapping := .bare 1024 "10.0.0.1" 8080 ⟨"a", index⟩
    let other : Mapping := .bare 1024 "10.0.0.2" 8080 ⟨"b", 7⟩
    let upsert (m : Mapping) (now : Nat) : TimedEvent := (⟨.upsert, m⟩, now)
    let t := empty.follow [upsert (.bare 80 "10.0.0.3" 8080 ⟨"a", 1⟩) 0]
    let es := [upsert (record 3) 1, upsert (record 1) 2, upsert other 3, upsert (record 2) 4,
      upsert (record 3) 5]
    let es' := [upsert other 1, upsert (record 1) 2, upsert (record 2) 3, upsert (record 1) 4,
      upsert other 5, upsert (record 3) 6]
    ((t.follow es).entry ⟨1024, ""⟩).servers.map (fun s => (s.address, s.tag.index)) =
        [("10.0.0.1", 3), ("10.0.0.2", 7)] ∧
      (t.follow es).get? ⟨80, ""⟩ = t.get? ⟨80, ""⟩ ∧
      ∀ k s, s ∈ ((t.follow es).entry k).servers ↔ s ∈ ((t.follow es').entry k).servers := by
  intro record other upsert t es es'
  let ms := [record 1, record 2, record 3, other]
  have hms : Mapping.Ranked ms := by decide +kernel
  have hkeys : ∀ r ∈ Mapping.routes ms, r.1 = ⟨1024, ""⟩ := by decide +kernel
  have hkey {m : Mapping} (hm : m ∈ ms) {k : Key} {s : Server} (hroute : m.route = .ok (k, s)) :
      k = ⟨1024, ""⟩ := hkeys (k, s) (Mapping.mem_routes_iff.2 ⟨m, hm, hroute⟩)
  have habsent : ∀ m ∈ ms, ∀ k s, m.route = .ok (k, s) → t.get? k = none := by
    intro m hm k s hroute
    rw [hkey hm hroute]
    decide +kernel
  have hdelivers (l : List TimedEvent) (hl : l = es ∨ l = es') : Delivers l ms := by
    have hall : ∀ l ∈ [es, es'], (∀ e ∈ l, e.1.action = .upsert ∧ e.1.mapping ∈ ms) ∧
        ∀ m ∈ ms, ∃ e ∈ l, e.1.mapping = m := by decide +kernel
    obtain ⟨hmem, hevery⟩ := hall l (by simpa using hl)
    refine ⟨fun e he => (hmem e he).1, fun m => ⟨?_, hevery m⟩⟩
    rintro ⟨e, he, rfl⟩
    exact (hmem e he).2
  obtain ⟨-, hother, hsame⟩ :=
    follow_delivered hms habsent (hdelivers es (.inl rfl)) (hdelivers es' (.inr rfl))
  refine ⟨by decide +kernel, hother _ fun m hm s hroute => ?_, hsame⟩
  exact absurd (hkey hm hroute) (by decide)

end Delivered

end Table
end RouteSync
