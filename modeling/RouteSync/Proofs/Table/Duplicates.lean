import RouteSync.Proofs.Table.Merged

/-! Records of one endpoint that come more than once in a list of servers: which of them is kept,
and in which place. -/
namespace RouteSync

namespace Server

/-- What is kept of the records of an endpoint: the first, until a later one succeeds it. -/
def survivor (first : Server) (more : List Server) : Server :=
  more.foldl (fun kept s => if s.tag.succeeds kept.tag then s else kept) first

variable {first : Server} {more ss : List Server} {p : String × UInt16}

theorem survivor_concat (first : Server) (more : List Server) (s : Server) :
    survivor first (more ++ [s]) =
      if s.tag.succeeds (survivor first more).tag then s else survivor first more := by
  rw [survivor, List.foldl_append]
  rfl

/-- Records of other endpoints have no part in it. -/
theorem latest_eq_survivor (h : ss.filter (·.endpoint = p) = first :: more) :
    latest p none ss = some (survivor first more) := by
  have hfilter : latest p none ss =
      (ss.filter (·.endpoint = p)).foldl (fun kept s => some (s.newest kept)) none := by
    simp [latest, List.foldl_filter]
  rw [hfilter, h, List.foldl_cons]
  exact List.foldl_hom some fun _ _ => rfl

/-- Under one guid the records before the one that is kept have lower indexes, and those after it no
higher ones. -/
theorem exists_survivor_highest (h : ∀ s ∈ more, s.tag.guid = first.tag.guid) :
    ∃ before after, first :: more = before ++ survivor first more :: after ∧
      (∀ s ∈ before, s.tag.index < (survivor first more).tag.index) ∧
      ∀ s ∈ after, s.tag.index ≤ (survivor first more).tag.index := by
  induction more using List.reverseRecOn with
  | nil => exact ⟨[], [], rfl, nofun, nofun⟩
  | append_singleton more s ih =>
    rw [List.forall_mem_append] at h
    obtain ⟨hmore, hs⟩ := h
    obtain ⟨before, after, heq, hbefore, hafter⟩ := ih hmore
    have hguid : (survivor first more).tag.guid = s.tag.guid := by
      have hmem : survivor first more ∈ first :: more := by simp [heq]
      rw [hs s List.mem_cons_self]
      rcases List.mem_cons.1 hmem with hfirst | hlater
      · rw [hfirst]
      · exact hmore _ hlater
    have hsucceeds := Tag.succeeds_iff (a := s.tag) (b := (survivor first more).tag)
    rw [forall_prop_of_true hguid] at hsucceeds
    rw [survivor_concat, ← List.cons_append]
    split
    · -- the new record is the highest so far, and so the one before it is no longer
      rename_i hnew
      have hlt := hsucceeds.1 hnew
      refine ⟨first :: more, [], rfl, fun c hc => ?_, nofun⟩
      rw [heq, List.mem_append, List.mem_cons] at hc
      rcases hc with hc | rfl | hc
      · exact UInt32.lt_trans (hbefore c hc) hlt
      · exact hlt
      · exact UInt32.lt_of_le_of_lt (hafter c hc) hlt
    · rename_i hold
      refine ⟨before, after ++ [s], ?_, hbefore, ?_⟩
      · rw [heq, List.append_assoc, List.cons_append]
      · rw [List.forall_mem_append]
        exact ⟨hafter, List.forall_mem_singleton.2 (UInt32.not_lt.1 (mt hsucceeds.2 hold))⟩

end Server

namespace Entry

theorem ofServers_concat (ss : List Server) (s : Server) (now : Nat) :
    ofServers (ss ++ [s]) now = add now s (ofServers ss now) := by
  rw [ofServers, List.foldl_append]
  rfl

theorem eraseDups_concat (ps : List (String × UInt16)) (p : String × UInt16) :
    (ps ++ [p]).eraseDups = if p ∈ ps then ps.eraseDups else ps.eraseDups ++ [p] := by
  have hone : [p].eraseDups = [p] := List.eraseDups_cons
  rw [List.eraseDups_append]
  by_cases hmem : p ∈ ps <;> simp [List.removeAll, hmem, hone]

/-- A record takes a place of its own only if it is the first of its endpoint. -/
theorem endpoints_ofServers (ss : List Server) (now : Nat) :
    (ofServers ss now).endpoints = (ss.map Server.endpoint).eraseDups := by
  induction ss using List.reverseRecOn with
  | nil => rfl
  | append_singleton ss s ih =>
    rw [ofServers_concat, endpoints_add, ih, List.map_append, List.map_singleton,
      eraseDups_concat]
    simp only [List.mem_eraseDups]

/-- Each endpoint is kept once, in the order in which the endpoints first come, by what its own
records leave: under one guid that is the first of those with the highest index. -/
theorem ofServers_keeps_newest (ss : List Server) (now : Nat) :
    (ofServers ss now).endpoints = (ss.map Server.endpoint).eraseDups ∧
    (ofServers ss now).endpoints.Nodup ∧
    ∀ b ∈ ofServers ss now, b.confirmed = now ∧
      (∃ first more, ss.filter (·.endpoint = b.server.endpoint) = first :: more ∧
        b.server = Server.survivor first more) ∧
      ∀ guid, (∀ s ∈ ss, s.endpoint = b.server.endpoint → s.tag.guid = guid) →
        ∃ before after, ss.filter (·.endpoint = b.server.endpoint) = before ++ b.server :: after ∧
          (∀ s ∈ before, s.tag.index < b.server.tag.index) ∧
          ∀ s ∈ after, s.tag.index ≤ b.server.tag.index := by
  have hdistinct := distinct_ofServers ss now
  refine ⟨endpoints_ofServers ss now, hdistinct, fun b hb => ?_⟩
  have hlatest : Server.latest b.server.endpoint none ss = some b.server := by
    rw [← server?_ofServers ss now]
    exact hdistinct.mem_servers_iff.1 (List.mem_map_of_mem hb)
  cases hrecords : ss.filter (·.endpoint = b.server.endpoint) with
  | nil =>
    obtain ⟨hmem, hend⟩ := (Server.mem_of_latest hlatest).resolve_right nofun
    simpa [hend] using List.filter_eq_nil_iff.1 hrecords b.server hmem
  | cons first more =>
    have hkept : Server.survivor first more = b.server :=
      Option.some.inj ((Server.latest_eq_survivor hrecords).symm.trans hlatest)
    refine ⟨confirmed_ofServers hb, ⟨first, more, rfl, hkept.symm⟩, fun guid hguid => ?_⟩
    have hall : ∀ s ∈ first :: more, s.tag.guid = guid := fun s hs => by
      obtain ⟨hmem, hend⟩ := List.mem_filter.1 (hrecords ▸ hs)
      exact hguid s hmem (by simpa using hend)
    obtain ⟨hfirst, hmore⟩ := List.forall_mem_cons.1 hall
    have hhighest := Server.exists_survivor_highest fun s hs => (hmore s hs).trans hfirst.symm
    rwa [hkept] at hhighest

/-- Records of two servers take turns. Of the two with the highest index the first is kept, in the
place of the first record of all. -/
theorem first_of_highest_kept :
    let record (address : String) (index : UInt32) (ttl : UInt64) : Server :=
      ⟨address, 8080, 0, "", ⟨"a", index⟩, ttl⟩
    let ss := [record "10.0.0.1" 1 0, record "10.0.0.2" 7 0, record "10.0.0.1" 3 10,
      record "10.0.0.2" 6 0, record "10.0.0.1" 3 20, record "10.0.0.1" 2 0]
    let kept := record "10.0.0.1" 3 10
    ofServers ss 5 = [⟨kept, 5⟩, ⟨record "10.0.0.2" 7 0, 5⟩] ∧
      ∃ before after, ss.filter (·.endpoint = kept.endpoint) = before ++ kept :: after ∧
        (∀ s ∈ before, s.tag.index < kept.tag.index) ∧
        ∀ s ∈ after, s.tag.index ≤ kept.tag.index := by
  intro record ss kept
  have hentry : ofServers ss 5 = [⟨kept, 5⟩, ⟨record "10.0.0.2" 7 0, 5⟩] := by decide +kernel
  have hmem : ⟨kept, 5⟩ ∈ ofServers ss 5 := hentry ▸ List.mem_cons_self
  have hguid : ∀ s ∈ ss, s.endpoint = kept.endpoint → s.tag.guid = "a" := by decide +kernel
  exact ⟨hentry, ((ofServers_keeps_newest ss 5).2.2 ⟨kept, 5⟩ hmem).2.2 "a" hguid⟩

end Entry
end RouteSync
