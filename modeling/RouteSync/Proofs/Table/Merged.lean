import RouteSync.Proofs.Table.Confirmed
import RouteSync.Proofs.Table.Newest

/-! What a listing makes of a table: under which keys, in which order, and as of when. A listing of
the same mappings that comes next finds nothing to change. -/
namespace RouteSync

namespace Entry

variable {e new old : Entry}

theorem Distinct.nodup (h : e.Distinct) : e.Nodup := List.Nodup.of_map _ h

theorem Distinct.orderedLike_perm (hnew : new.Distinct) (hold : old.Distinct) :
    (Entry.orderedLike new old).Perm new :=
  (List.perm_ext_iff_of_nodup (hnew.orderedLike hold).nodup hnew.nodup).2 fun _ =>
    mem_orderedLike hnew

/-- Where endpoints are distinct, their order and the server at each are all there is. -/
theorem Distinct.servers_eq (h : e.Distinct) : e.servers = e.endpoints.filterMap e.server? := by
  have hserver : ∀ b ∈ e, e.server? b.server.endpoint = some b.server := fun b hb =>
    h.mem_servers_iff.1 (List.mem_map_of_mem hb)
  rw [endpoints, List.filterMap_map]
  exact (List.filterMap_eq_map_iff_forall_eq_some.2 hserver).symm

/-- An order that has an endpoint for each server already is kept as it is. -/
theorem endpoints_orderedLike_of_server?_eq (h : ∀ p, new.server? p = old.server? p) :
    (orderedLike new old).endpoints = old.endpoints := by
  have hmem (p : String × UInt16) : p ∈ new.endpoints ↔ p ∈ old.endpoints := by
    rw [← not_iff_not, ← server?_eq_none_iff, ← server?_eq_none_iff, h]
  have hkept : old.endpoints.filter (· ∈ new.endpoints) = old.endpoints :=
    List.filter_eq_self.2 fun p hp => by simpa using (hmem p).2 hp
  have hnone : new.endpoints.filter (· ∉ old.endpoints) = [] :=
    List.filter_eq_nil_iff.2 fun p hp => by simpa using (hmem p).1 hp
  rw [endpoints_orderedLike, hkept, hnone, List.append_nil]

theorem Distinct.servers_orderedLike_of_server?_eq (hnew : new.Distinct) (hold : old.Distinct)
    (h : ∀ p, new.server? p = old.server? p) :
    (Entry.orderedLike new old).servers = old.servers := by
  have hserver : (Entry.orderedLike new old).server? = old.server? :=
    funext fun p => (hnew.server?_orderedLike hold p).trans (h p)
  rw [(hnew.orderedLike hold).servers_eq, hold.servers_eq, hserver,
    endpoints_orderedLike_of_server?_eq h]

theorem ofServers_ne_nil {ss : List Server} (h : ss ≠ []) (now : Nat) : ofServers ss now ≠ [] := by
  obtain ⟨s, hs⟩ := List.exists_mem_of_ne_nil ss h
  intro hnil
  have hlatest := server?_ofServers ss now s.endpoint
  rw [hnil, server?_nil] at hlatest
  exact (Server.latest_eq_none_iff.1 hlatest.symm).2 s hs rfl

end Entry

namespace Table

variable {t : Table} {ms ms' : List Mapping} {now : Nat} {k : Key}

theorem changed_setListed {route : Key × List Server} (h : route.1.valid = true) (now : Nat)
    (t : Table) :
    (setListed now route t).changed =
      decide (((Entry.ofServers route.2 now).orderedLike (t.entry route.1)).servers ≠
        (t.entry route.1).servers) := by
  have hc : t.set route.1 (Entry.ofServers route.2 now) = .ok _ := set_eq_ok_iff.2 ⟨h, rfl⟩
  simp only [setListed, hc]

/-- Routes that have what they are set to already make no change. -/
theorem changed_foldl_setListed {routes : List (Key × List Server)}
    (hv : ∀ r ∈ routes, r.1.valid = true) (hp : routes.Pairwise fun a b => a.1 < b.1) (c : Change)
    (hsame : ∀ r ∈ routes, ((Entry.ofServers r.2 now).orderedLike (c.table.entry r.1)).servers =
      (c.table.entry r.1).servers) :
    (routes.foldl (fun change r => Change.then change (setListed now r)) c).changed =
      c.changed := by
  induction routes generalizing c with
  | nil => rfl
  | cons r rs ih =>
    obtain ⟨hr, hrs⟩ := List.forall_mem_cons.1 hv
    obtain ⟨hlt, hp⟩ := List.pairwise_cons.1 hp
    obtain ⟨hsame, hrest⟩ := List.forall_mem_cons.1 hsame
    rw [List.foldl_cons, ih hrs hp]
    · simp [Change.then, changed_setListed hr, hsame]
    · -- the keys that follow are others, and their entries are still what they were
      intro r' hr'
      have hne : r'.1 ≠ r.1 := fun heq => Key.lt_irrefl r.1 (heq ▸ hlt r' hr')
      have hentry : (Change.then c (setListed now r)).table.entry r'.1 = c.table.entry r'.1 := by
        simpa [Change.then, hne] using entry_setListed hr now c.table r'.1
      rw [hentry]
      exact hrest r' hr'

/-- A listing tells exactly whether what is served changed with it: what one key gains no other key
makes up for. -/
theorem Sound.exact_merge (h : t.Sound) (ms : List Mapping) (now : Nat) :
    t.Exact (t.merge ms now) := by
  have hhonest := h.honest_merge ms now
  constructor
  · intro hchanged hsame
    have hservers := (hhonest.sound.snapshot_eq_iff h).1 hsame
    have hunchanged : (t.merge ms now).changed = false := by
      refine changed_foldl_setListed (fun r hr => valid_of_listed hr) (listed ms).ascending
        (t.unchanged (skipped ms)) fun r hr => ?_
      have hget := get?_listed ms r.1
      rw [RouteMap.get?_eq_some_iff.2 hr] at hget
      split at hget
      · cases hget
      · rename_i hne
        have hentry := hservers r.1
        rwa [entry_merge, if_neg hne, ← Option.some.inj hget] at hentry
    rw [hunchanged] at hchanged
    cases hchanged
  · intro hne
    cases hchanged : (t.merge ms now).changed with
    | true => rfl
    | false => exact absurd (hhonest.told hchanged) hne

/-- A key that a listing names by some valid mapping has an entry, and any other has what it had. -/
theorem Sound.get?_merge (h : t.Sound) (ms : List Mapping) (now : Nat) (k : Key) :
    (t.merge ms now).table.get? k =
      if ms.filterMap (Mapping.serverFor k) = [] then t.get? k
      else some ((Entry.ofServers (ms.filterMap (Mapping.serverFor k)) now).orderedLike
        (t.entry k)) := by
  rw [(h.honest_merge ms now).sound.get?_eq, entry_merge]
  split
  · exact (h.get?_eq k).symm
  · rename_i hne
    have hd := Entry.distinct_ofServers (ms.filterMap (Mapping.serverFor k)) now
    have hperm := hd.orderedLike_perm (h.distinct_entry k)
    refine if_neg fun hnil => Entry.ofServers_ne_nil hne now ?_
    rw [hnil] at hperm
    exact hperm.nil_eq.symm

theorem filterMap_serverFor_eq_nil_iff :
    ms.filterMap (Mapping.serverFor k) = [] ↔ ∀ m ∈ ms, ∀ s, m.route ≠ .ok (k, s) := by
  simp only [List.eq_nil_iff_forall_not_mem, Mapping.mem_servers_iff, not_exists, not_and]
  exact forall_comm.trans (forall_congr' fun _ => forall_comm)

/-- Whatever a listing names it confirms. -/
theorem Sound.confirmed?_merge (h : t.Sound) {m : Mapping} {s : Server} (hm : m ∈ ms)
    (hroute : m.route = .ok (k, s)) (now : Nat) :
    (t.merge ms now).table.confirmed? k s.endpoint = some now := by
  have hmem : s ∈ ms.filterMap (Mapping.serverFor k) :=
    Mapping.mem_servers_iff.2 ⟨m, hm, hroute⟩
  have hd := Entry.distinct_ofServers (ms.filterMap (Mapping.serverFor k)) now
  have hentry : (t.merge ms now).table.entry k = _ :=
    (entry_merge t ms now k).trans (if_neg (List.ne_nil_of_mem hmem))
  have hend : s.endpoint ∈ ((t.merge ms now).table.entry k).endpoints := by
    rw [hentry, ← not_not (a := s.endpoint ∈ _), ← Entry.server?_eq_none_iff,
      hd.server?_orderedLike (h.distinct_entry k), Entry.server?_ofServers,
      Server.latest_eq_none_iff]
    exact fun hnone => hnone.2 s hmem rfl
  obtain ⟨b, hb, hbs⟩ := List.mem_map.1 hend
  have hconfirmed : b.confirmed = now := by
    rw [hentry] at hb
    exact Entry.confirmed_ofServers ((Entry.mem_orderedLike hd).1 hb)
  rw [← hbs, (h.honest_merge ms now).sound.confirmed?_of_mem hb, hconfirmed]

/-- A listing finds the servers of one that has the same mappings in their places already. -/
theorem Sound.snapshot_merge_again (h : t.Sound) (hms : Mapping.Ranked ms) (hperm : ms.Perm ms')
    (first second : Nat) :
    ((t.merge ms first).table.merge ms' second).table.snapshot =
      (t.merge ms first).table.snapshot := by
  have hmerged := (h.honest_merge ms first).sound
  refine ((hmerged.honest_merge ms' second).sound.snapshot_eq_iff hmerged).2 fun k => ?_
  have hservers := hperm.filterMap (Mapping.serverFor k)
  rw [entry_merge]
  split
  · rfl
  · rename_i hne
    refine (Entry.distinct_ofServers _ second).servers_orderedLike_of_server?_eq
      (hmerged.distinct_entry k) fun p => ?_
    have hlisted : ms.filterMap (Mapping.serverFor k) ≠ [] := by
      intro hnil
      rw [hnil] at hservers
      exact hne hservers.nil_eq.symm
    have hserver := h.server?_merge ms first k p
    rw [if_neg hlisted] at hserver
    rw [Entry.server?_ofServers]
    refine Eq.trans ?_ hserver.symm
    exact ((hms.servers k).latest_congr fun _ => hservers.mem_iff).symm

end Table
end RouteSync
