import RouteSync.Table.Entry

/-! Entries seen through their endpoints: which server stands at each, and in which order. -/
namespace RouteSync

/-- The server that is kept at an endpoint when one more record of it comes in. -/
def Server.newest (s : Server) : Option Server → Server
  | none => s
  | some stored => if s.tag.succeeds stored.tag then s else stored

/-- What a withdrawal leaves of the server at its endpoint. -/
def Server.withdraw (s : Server) : Option Server → Option Server
  | none => none
  | some stored => if s.tag.succeedsOrEquals stored.tag then none else some stored

theorem Server.same_iff {a b : Server} : a.same b = true ↔ a.endpoint = b.endpoint := by
  simp [Server.same]

namespace Entry

def endpoints (e : Entry) : List (String × UInt16) := e.map (·.server.endpoint)

@[simp] theorem endpoints_nil : endpoints [] = [] := rfl

@[simp] theorem endpoints_cons (b : Tracked) (bs : Entry) :
    endpoints (b :: bs) = b.server.endpoint :: endpoints bs := rfl

/-- No two servers of the entry have the same endpoint. -/
def Distinct (e : Entry) : Prop := e.endpoints.Nodup

/-- The server at an endpoint. -/
def server? (e : Entry) (p : String × UInt16) : Option Server :=
  (List.find? (fun b => b.server.endpoint = p) e).map (·.server)

theorem find?_eq (e : Entry) (s : Server) :
    find? e s = List.find? (fun b => b.server.endpoint = s.endpoint) e := by
  simp [find?, Tracked.same, Server.same]

@[simp] theorem server?_nil (p : String × UInt16) : server? [] p = none := rfl

theorem server?_cons (b : Tracked) (bs : Entry) (p : String × UInt16) :
    server? (b :: bs) p = if b.server.endpoint = p then some b.server else server? bs p := by
  by_cases h : b.server.endpoint = p <;> simp [server?, h]

theorem server?_eq_none_iff {e : Entry} {p : String × UInt16} :
    e.server? p = none ↔ p ∉ e.endpoints := by
  induction e with
  | nil => simp
  | cons b bs ih =>
    rw [server?_cons]
    by_cases h : b.server.endpoint = p
    · simp [h]
    · rw [if_neg h, ih]
      simp [Ne.symm h]

theorem endpoint_of_server? {e : Entry} {p : String × UInt16} {s : Server}
    (h : e.server? p = some s) : s.endpoint = p := by
  obtain ⟨b, hb, rfl⟩ := Option.map_eq_some_iff.1 h
  simpa using List.find?_some hb

theorem mem_servers_of_server? {e : Entry} {p : String × UInt16} {s : Server}
    (h : e.server? p = some s) : s ∈ e.servers := by
  obtain ⟨b, hb, rfl⟩ := Option.map_eq_some_iff.1 h
  exact List.mem_map_of_mem (List.mem_of_find?_eq_some hb)

theorem Distinct.tail {b : Tracked} {bs : Entry} (h : Distinct (b :: bs)) : Distinct bs :=
  (List.nodup_cons.1 h).2

theorem Distinct.head {b : Tracked} {bs : Entry} (h : Distinct (b :: bs)) :
    b.server.endpoint ∉ endpoints bs := (List.nodup_cons.1 h).1

/-- Where endpoints are distinct, an entry is a map from them. -/
theorem Distinct.server?_eq_some_iff {e : Entry} (h : e.Distinct) {p : String × UInt16}
    {s : Server} : e.server? p = some s ↔ s ∈ e.servers ∧ s.endpoint = p := by
  refine ⟨fun hs => ⟨mem_servers_of_server? hs, endpoint_of_server? hs⟩, ?_⟩
  rintro ⟨hs, rfl⟩
  induction e with
  | nil => simp [servers] at hs
  | cons b bs ih =>
    rw [server?_cons]
    simp only [servers, List.map_cons, List.mem_cons] at hs
    by_cases hb : b.server.endpoint = s.endpoint
    · rw [if_pos hb]
      rcases hs with rfl | hs
      · rfl
      · have hmem : s.endpoint ∈ endpoints bs := by
          obtain ⟨c, hc, rfl⟩ := List.mem_map.1 hs
          exact List.mem_map_of_mem hc
        exact absurd (hb ▸ hmem) h.head
    · rw [if_neg hb]
      rcases hs with rfl | hs
      · exact absurd rfl hb
      · exact ih h.tail hs

theorem Distinct.mem_servers_iff {e : Entry} (h : e.Distinct) {s : Server} :
    s ∈ e.servers ↔ e.server? s.endpoint = some s := by
  rw [h.server?_eq_some_iff]
  simp

section Add

theorem endpoints_add (now : Nat) (s : Server) (e : Entry) :
    endpoints (add now s e) =
      if s.endpoint ∈ e.endpoints then e.endpoints else e.endpoints ++ [s.endpoint] := by
  induction e with
  | nil => simp [add]
  | cons b bs ih =>
    simp only [add, Tracked.same, Server.same_iff]
    by_cases h : b.server.endpoint = s.endpoint
    · rw [if_pos h]
      split <;> simp [h]
    · rw [if_neg h, endpoints_cons, ih]
      by_cases hs : s.endpoint ∈ endpoints bs
      · simp [hs]
      · simp [hs, Ne.symm h]

theorem server?_add (now : Nat) (s : Server) (e : Entry) (p : String × UInt16) :
    server? (add now s e) p =
      if s.endpoint = p then some (s.newest (e.server? p)) else e.server? p := by
  induction e with
  | nil => simp [add, server?_cons, Server.newest]
  | cons b bs ih =>
    simp only [add, Tracked.same, Server.same_iff]
    by_cases h : b.server.endpoint = s.endpoint
    · rw [if_pos h]
      by_cases hp : s.endpoint = p
      · split <;> simp_all [server?_cons, Server.newest]
      · split <;> simp_all [server?_cons]
    · rw [if_neg h, server?_cons, server?_cons, ih]
      by_cases hp : s.endpoint = p
      · simp [hp ▸ h, hp]
      · simp [hp]

theorem Distinct.add {e : Entry} (h : e.Distinct) (now : Nat) (s : Server) :
    Distinct (add now s e) := by
  rw [Distinct, endpoints_add]
  split
  · exact h
  · rename_i hs
    exact List.nodup_append.2 ⟨h, by simp, by
      intro a ha b hb hab
      rw [List.mem_singleton] at hb
      exact hs (hb ▸ hab ▸ ha)⟩

theorem distinct_foldl_add (now : Nat) (ss : List Server) {e : Entry} (h : e.Distinct) :
    Distinct (ss.foldl (fun e s => Entry.add now s e) e) := by
  induction ss generalizing e with
  | nil => exact h
  | cons s ss ih => exact ih (h.add now s)

theorem distinct_ofServers (ss : List Server) (now : Nat) : Distinct (ofServers ss now) :=
  distinct_foldl_add now ss List.nodup_nil

end Add

section Upsert

theorem endpoint_replace {b : Tracked} {s : Server} (h : b.server.endpoint = s.endpoint)
    (now : Nat) : (replace now s b).1.server.endpoint = s.endpoint := by
  unfold replace
  split
  · rfl
  · split <;> exact h

theorem server_replace (now : Nat) (s : Server) (b : Tracked) :
    (replace now s b).1.server = s.newest (some b.server) := by
  by_cases h : s.tag.succeeds b.server.tag = true
  · simp [replace, Server.newest, h]
  · by_cases hb : b.server = s <;> simp [replace, Server.newest, h, hb]

theorem replace_changed (now : Nat) (s : Server) (b : Tracked) :
    (replace now s b).2.1 = true ↔ (replace now s b).1.server ≠ b.server := by
  unfold replace
  split
  · simpa using ne_comm
  · split <;> simp

theorem endpoints_upsert (now : Nat) (s : Server) (e : Entry) :
    endpoints (upsert now s e).entry =
      if s.endpoint ∈ e.endpoints then e.endpoints else e.endpoints ++ [s.endpoint] := by
  induction e with
  | nil => simp [upsert]
  | cons b bs ih =>
    simp only [upsert, Tracked.same, Server.same_iff]
    by_cases h : b.server.endpoint = s.endpoint
    · rw [if_pos h]
      simp [endpoint_replace h, h]
    · rw [if_neg h]
      simp only [Edit.cons, endpoints_cons, ih]
      by_cases hs : s.endpoint ∈ endpoints bs
      · simp [hs]
      · simp [hs, Ne.symm h]

theorem server?_upsert (now : Nat) (s : Server) (e : Entry) (p : String × UInt16) :
    server? (upsert now s e).entry p =
      if s.endpoint = p then some (s.newest (e.server? p)) else e.server? p := by
  induction e with
  | nil => simp [upsert, server?_cons, Server.newest]
  | cons b bs ih =>
    simp only [upsert, Tracked.same, Server.same_iff]
    by_cases h : b.server.endpoint = s.endpoint
    · rw [if_pos h, server?_cons, server?_cons, endpoint_replace h, server_replace, h]
      by_cases hp : s.endpoint = p <;> simp [hp]
    · rw [if_neg h]
      simp only [Edit.cons, server?_cons, ih]
      by_cases hp : s.endpoint = p
      · simp [hp ▸ h, hp]
      · simp [hp]

theorem Distinct.upsert {e : Entry} (h : e.Distinct) (now : Nat) (s : Server) :
    Distinct (upsert now s e).entry := by
  rw [Distinct, endpoints_upsert, ← endpoints_add now]
  exact h.add now s

theorem upsert_changed (now : Nat) (s : Server) (e : Entry) :
    (upsert now s e).changed = true ↔ servers (upsert now s e).entry ≠ e.servers := by
  induction e with
  | nil => simp [Entry.upsert, servers]
  | cons b bs ih =>
    simp only [Entry.upsert]
    split
    · simp [replace_changed, servers]
    · simp only [Edit.cons, ih]
      simp [servers]

end Upsert

section Delete

theorem endpoints_delete_sublist (s : Server) (e : Entry) :
    (endpoints (delete s e).entry).Sublist e.endpoints := by
  induction e with
  | nil => simp [delete]
  | cons b bs ih =>
    simp only [delete]
    split
    · split
      · exact List.sublist_cons_self _ _
      · exact List.Sublist.refl _
    · exact ih.cons_cons _

theorem Distinct.delete {e : Entry} (h : e.Distinct) (s : Server) :
    Distinct (delete s e).entry := h.sublist (endpoints_delete_sublist s e)

theorem Distinct.server?_delete {e : Entry} (h : e.Distinct) (s : Server)
    (p : String × UInt16) :
    server? (Entry.delete s e).entry p =
      if s.endpoint = p then s.withdraw (e.server? p) else e.server? p := by
  induction e with
  | nil => simp [Entry.delete, Server.withdraw]
  | cons b bs ih =>
    simp only [Entry.delete, Tracked.same, Server.same_iff]
    by_cases hb : b.server.endpoint = s.endpoint
    · have hbs : server? bs s.endpoint = none := server?_eq_none_iff.2 (hb ▸ h.head)
      rw [if_pos hb, server?_cons, hb]
      by_cases hp : s.endpoint = p
      · subst hp
        split <;> simp_all [Server.withdraw, server?_cons]
      · split <;> simp [server?_cons, hb, hp]
    · rw [if_neg hb]
      simp only [Edit.cons, server?_cons, ih h.tail]
      by_cases hp : s.endpoint = p
      · simp [hp ▸ hb, hp]
      · simp [hp]

theorem delete_changed (s : Server) (e : Entry) :
    (delete s e).changed = true ↔ servers (delete s e).entry ≠ e.servers := by
  induction e with
  | nil => simp [Entry.delete]
  | cons b bs ih =>
    simp only [Entry.delete]
    split
    · split
      · have hlen : (servers bs).length ≠ (servers (b :: bs)).length := by simp [servers]
        simpa using fun heq => hlen (congrArg List.length heq)
      · simp
    · simp only [Edit.cons, ih]
      simp [servers]

end Delete

section OrderedLike

theorem mem_orderedLike {new old : Entry} (h : new.Distinct) {b : Tracked} :
    b ∈ orderedLike new old ↔ b ∈ new := by
  have hfind : ∀ {c : Tracked}, c ∈ new → ∀ p, c.server.endpoint = p →
      List.find? (fun b => b.server.endpoint = p) new = some c := by
    intro c hc p hp
    induction new with
    | nil => simp at hc
    | cons d ds ih =>
      rcases List.mem_cons.1 hc with rfl | hc
      · simp [hp]
      · have hne : d.server.endpoint ≠ p := by
          intro hd
          exact h.head (hd ▸ hp ▸ List.mem_map_of_mem hc)
        rw [List.find?_cons_of_neg (by simpa using hne)]
        exact ih h.tail hc
  simp only [orderedLike, List.mem_append, List.mem_filterMap, List.mem_filter, find?_eq]
  constructor
  · rintro (⟨c, -, hc⟩ | ⟨hb, -⟩)
    · exact List.mem_of_find?_eq_some hc
    · exact hb
  · intro hb
    cases hold : List.find? (fun c => c.server.endpoint = b.server.endpoint) old with
    | none => exact .inr ⟨hb, rfl⟩
    | some c =>
      have hc : c.server.endpoint = b.server.endpoint := by simpa using List.find?_some hold
      exact .inl ⟨c, List.mem_of_find?_eq_some hold, hfind hb _ hc.symm⟩

/-- Endpoints that were there keep their order, and the others follow in theirs. -/
theorem endpoints_orderedLike (new old : Entry) :
    endpoints (orderedLike new old) =
      old.endpoints.filter (· ∈ new.endpoints) ++ new.endpoints.filter (· ∉ old.endpoints) := by
  have hkept : endpoints (old.filterMap fun b => find? new b.server) =
      old.endpoints.filter (· ∈ new.endpoints) := by
    induction old with
    | nil => rfl
    | cons b bs ih =>
      have hb := @server?_eq_none_iff new b.server.endpoint
      simp only [server?, Option.map_eq_none_iff] at hb
      rw [List.filterMap_cons, find?_eq]
      cases hc : List.find? (fun c => c.server.endpoint = b.server.endpoint) new with
      | none => simpa [hb.1 hc] using ih
      | some c =>
        have hend : c.server.endpoint = b.server.endpoint := by simpa using List.find?_some hc
        have hmem : b.server.endpoint ∈ new.endpoints :=
          hend ▸ List.mem_map_of_mem (List.mem_of_find?_eq_some hc)
        simpa [hend, hmem] using ih
  have hnew : endpoints (new.filter fun b => (find? old b.server).isNone) =
      new.endpoints.filter (· ∉ old.endpoints) := by
    rw [endpoints, show new.endpoints = new.map (·.server.endpoint) from rfl, List.filter_map]
    congr 1
    refine List.filter_congr fun b _ => ?_
    have hb := @server?_eq_none_iff old b.server.endpoint
    simp only [server?, Option.map_eq_none_iff] at hb
    rw [find?_eq, Bool.eq_iff_iff, Option.isNone_iff_eq_none, hb]
    simp
  rw [← hkept, ← hnew, orderedLike, endpoints, List.map_append]
  rfl

theorem Distinct.orderedLike {new old : Entry} (hnew : new.Distinct) (hold : old.Distinct) :
    Distinct (orderedLike new old) := by
  rw [Distinct, endpoints_orderedLike]
  refine List.nodup_append.2 ⟨hold.filter _, hnew.filter _, ?_⟩
  intro p hp q hq hpq
  simp only [List.mem_filter, decide_eq_true_eq] at hp hq
  exact hq.2 (hpq ▸ hp.1)

end OrderedLike

theorem Distinct.fresh {e : Entry} (h : e.Distinct) (now : Nat) : Distinct (fresh now e) :=
  List.Nodup.sublist (List.filter_sublist.map _) h

end Entry
end RouteSync
