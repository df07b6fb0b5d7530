import RouteSync.Proofs.Table.Follow

/-! A listing replaces the keys that it names, each by the newest records of its servers. -/
namespace RouteSync

/-- The server that a mapping names for a key. -/
def Mapping.serverFor (k : Key) (m : Mapping) : Option Server :=
  match m.route with
  | .ok (k', s) => if k' = k then some s else none
  | .error _ => none

theorem Mapping.serverFor_eq_some_iff {k : Key} {m : Mapping} {s : Server} :
    m.serverFor k = some s ↔ m.route = .ok (k, s) := by
  unfold serverFor
  cases m.route with
  | error why => simp
  | ok route =>
    obtain ⟨k', s'⟩ := route
    by_cases hk : k' = k <;> simp [hk]

/-- The newest of the records of an endpoint, after `kept`. -/
def Server.latest (p : String × UInt16) (kept : Option Server) (ss : List Server) :
    Option Server :=
  ss.foldl (fun kept s => if s.endpoint = p then some (s.newest kept) else kept) kept

@[simp] theorem Server.latest_nil (p : String × UInt16) (kept : Option Server) :
    latest p kept [] = kept := rfl

theorem Server.latest_cons (p : String × UInt16) (kept : Option Server) (s : Server)
    (ss : List Server) :
    latest p kept (s :: ss) =
      latest p (if s.endpoint = p then some (s.newest kept) else kept) ss := rfl

theorem Server.newest_eq (s : Server) (kept : Option Server) :
    s.newest kept = s ∨ kept = some (s.newest kept) := by
  cases kept with
  | none => exact .inl rfl
  | some stored =>
    unfold newest
    by_cases h : s.tag.succeeds stored.tag = true <;> simp [h]

theorem Server.mem_of_latest {p : String × UInt16} {kept : Option Server} {ss : List Server}
    {s : Server} (h : latest p kept ss = some s) :
    (s ∈ ss ∧ s.endpoint = p) ∨ kept = some s := by
  induction ss generalizing kept with
  | nil => exact .inr h
  | cons c cs ih =>
    rw [latest_cons] at h
    rcases ih h with ⟨hmem, hp⟩ | hkept
    · exact .inl ⟨List.mem_cons_of_mem _ hmem, hp⟩
    · split at hkept
      · rename_i hp
        have hs := Option.some.inj hkept
        rcases c.newest_eq kept with hc | hc
        · exact .inl (by simp [← hs, hc, hp])
        · exact .inr (hs ▸ hc)
      · exact .inr hkept

theorem Server.latest_eq_none_iff {p : String × UInt16} {kept : Option Server}
    {ss : List Server} :
    latest p kept ss = none ↔ kept = none ∧ ∀ s ∈ ss, s.endpoint ≠ p := by
  induction ss generalizing kept with
  | nil => simp
  | cons c cs ih =>
    rw [latest_cons, ih]
    by_cases hc : c.endpoint = p <;> simp [hc]

namespace Entry

/-- Of the servers of a listing, every endpoint has the newest record. -/
theorem server?_ofServers (ss : List Server) (now : Nat) (p : String × UInt16) :
    (ofServers ss now).server? p = Server.latest p none ss := by
  suffices h : ∀ e : Entry, server? (ss.foldl (fun e s => add now s e) e) p =
      Server.latest p (e.server? p) ss from h []
  induction ss with
  | nil => exact fun _ => rfl
  | cons s ss ih =>
    intro e
    rw [List.foldl_cons, ih, server?_add]
    rfl

theorem Distinct.server?_orderedLike {new old : Entry} (hn : new.Distinct)
    (ho : old.Distinct) (p : String × UInt16) :
    (Entry.orderedLike new old).server? p = new.server? p := by
  ext s
  rw [(hn.orderedLike ho).server?_eq_some_iff, hn.server?_eq_some_iff]
  simp only [servers, List.mem_map, mem_orderedLike hn]

end Entry

namespace Table

theorem get?_foldl_listed (ms : List Mapping) (routes : RouteMap (List Server)) (k : Key) :
    (ms.foldl (fun routes m =>
      match m.route with
      | .ok (k, s) => routes.insert k ((routes.get? k).getD [] ++ [s])
      | .error _ => routes) routes).get? k =
    if ms.filterMap (Mapping.serverFor k) = [] then routes.get? k
    else some ((routes.get? k).getD [] ++ ms.filterMap (Mapping.serverFor k)) := by
  induction ms generalizing routes with
  | nil => simp
  | cons m ms ih =>
    rw [List.foldl_cons, ih, List.filterMap_cons]
    cases hr : m.route with
    | error why => simp [Mapping.serverFor, hr]
    | ok route =>
      obtain ⟨k', s⟩ := route
      by_cases hk : k = k'
      · subst hk
        by_cases hms : ms.filterMap (Mapping.serverFor k) = [] <;>
          simp [Mapping.serverFor, hr, hms, RouteMap.get?_insert]
      · simp [Mapping.serverFor, hr, hk, Ne.symm hk, RouteMap.get?_insert]

/-- A listing names a key by the mappings whose routes lead from it. -/
theorem get?_listed (ms : List Mapping) (k : Key) :
    (listed ms).get? k = if ms.filterMap (Mapping.serverFor k) = [] then none
      else some (ms.filterMap (Mapping.serverFor k)) := by
  have h := get?_foldl_listed ms .empty k
  rw [RouteMap.get?_empty, Option.getD_none, List.nil_append] at h
  exact h

theorem valid_of_listed {ms : List Mapping} {r : Key × List Server}
    (h : r ∈ (listed ms).entries) : r.1.valid = true := by
  rw [← RouteMap.get?_eq_some_iff, get?_listed] at h
  split at h
  · cases h
  · rename_i hne
    obtain ⟨s, hs⟩ := List.exists_mem_of_ne_nil _ hne
    obtain ⟨m, -, hm⟩ := List.mem_filterMap.1 hs
    exact Mapping.valid_of_route (Mapping.serverFor_eq_some_iff.1 hm)

theorem entry_setListed {route : Key × List Server} (h : route.1.valid = true) (now : Nat)
    (t : Table) (k : Key) :
    (setListed now route t).table.entry k =
      if k = route.1 then (Entry.ofServers route.2 now).orderedLike (t.entry k)
      else t.entry k := by
  have hc : t.set route.1 (Entry.ofServers route.2 now) = .ok _ := set_eq_ok_iff.2 ⟨h, rfl⟩
  simp only [setListed, hc, entry_store]
  split
  · rename_i hk
    rw [hk]
  · rfl

theorem entry_foldl_setListed {now : Nat} {routes : List (Key × List Server)}
    (hv : ∀ r ∈ routes, r.1.valid = true)
    (hp : routes.Pairwise fun a b => a.1 < b.1) (c : Change) (k : Key) :
    (routes.foldl (fun change r => Change.then change (setListed now r)) c).table.entry k =
      match routes.find? (·.1 = k) with
      | some r => (Entry.ofServers r.2 now).orderedLike (c.table.entry k)
      | none => c.table.entry k := by
  induction routes generalizing c with
  | nil => rfl
  | cons r rs ih =>
    obtain ⟨hlt, hrs⟩ := List.pairwise_cons.1 hp
    rw [List.foldl_cons, ih (fun x hx => hv x (List.mem_cons_of_mem _ hx)) hrs]
    have hr := entry_setListed (hv r List.mem_cons_self) now c.table k
    by_cases hk : r.1 = k
    · have hnone : rs.find? (·.1 = k) = none := by
        refine List.find?_eq_none.2 fun x hx hxk => ?_
        have hlt' := hlt x hx
        rw [hk, of_decide_eq_true hxk] at hlt'
        exact Key.lt_irrefl k hlt'
      rw [hnone, List.find?_cons_of_pos (by simpa using hk)]
      simpa [Change.then, hk] using hr
    · have hr' : (Change.then c (setListed now r)).table.entry k = c.table.entry k := by
        simpa [Change.then, Ne.symm hk] using hr
      rw [List.find?_cons_of_neg (by simpa using hk), hr']

/-- The servers that a listing names for a key take the place of those that it had; a key that it
does not name keeps its own. -/
theorem entry_merge (t : Table) (ms : List Mapping) (now : Nat) (k : Key) :
    (t.merge ms now).table.entry k =
      if ms.filterMap (Mapping.serverFor k) = [] then t.entry k
      else (Entry.ofServers (ms.filterMap (Mapping.serverFor k)) now).orderedLike (t.entry k) := by
  have hget := get?_listed ms k
  unfold RouteMap.get? at hget
  rw [merge, entry_foldl_setListed (fun r hr => valid_of_listed hr) (listed ms).ascending]
  split at hget
  · rename_i hnil
    rw [Option.map_eq_none_iff.1 hget, if_pos hnil]
    rfl
  · rename_i hne
    obtain ⟨r, hr, hs⟩ := Option.map_eq_some_iff.1 hget
    rw [hr, if_neg hne, ← hs]
    rfl

theorem Sound.server?_merge {t : Table} (h : t.Sound) (ms : List Mapping) (now : Nat) (k : Key)
    (p : String × UInt16) :
    (t.merge ms now).table.server? k p =
      if ms.filterMap (Mapping.serverFor k) = [] then t.server? k p
      else Server.latest p none (ms.filterMap (Mapping.serverFor k)) := by
  rw [server?, entry_merge]
  split
  · rfl
  · rw [(Entry.distinct_ofServers _ now).server?_orderedLike (h.distinct_entry k),
      Entry.server?_ofServers]

end Table
end RouteSync
