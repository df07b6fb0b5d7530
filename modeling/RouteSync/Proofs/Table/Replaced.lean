import RouteSync.Proofs.Table.InPlace
import RouteSync.Proofs.Table.Merged

/-! What a replacement leaves at its key. The old servers are gone through in their order, each
takes its new record out of those that are left, and what none of them took comes last. -/
namespace RouteSync

namespace Entry

variable {e new old : Entry}

/-- The old servers take their new records out of the new ones, and the rest follows. -/
def draw : Entry → Entry → Entry
  | [], rest => rest
  | b :: bs, rest => (find? rest b.server).toList ++ draw bs (rest.eraseP (·.same b.server))

/-- Where endpoints are distinct, taking out the first record of one takes out all of them. -/
theorem Distinct.eraseP_same (h : e.Distinct) (s : Server) :
    e.eraseP (·.same s) = e.filter (fun b => b.server.endpoint ≠ s.endpoint) := by
  induction e with
  | nil => rfl
  | cons b bs ih =>
    by_cases hb : b.server.endpoint = s.endpoint
    · have hrest : bs.filter (fun c => c.server.endpoint ≠ s.endpoint) = bs := by
        refine List.filter_eq_self.2 fun c hc => ?_
        have hne : c.server.endpoint ≠ s.endpoint :=
          fun hcs => h.head (hb ▸ hcs ▸ List.mem_map_of_mem hc)
        simpa using hne
      have hsame : b.same s = true := Server.same_iff.2 hb
      rw [List.eraseP_cons, hsame, cond_true, List.filter_cons_of_neg (by simpa using hb), hrest]
    · have hother : b.same s = false := Bool.eq_false_iff.2 (mt Server.same_iff.1 hb)
      rw [List.eraseP_cons, hother, cond_false, ih h.tail,
        List.filter_cons_of_pos (by simpa using hb)]

/-- What is taken out at one endpoint is not missed at another. -/
theorem find?_filter_of_endpoint_ne {p : String × UInt16} {s : Server} (h : s.endpoint ≠ p) :
    find? (e.filter fun b => b.server.endpoint ≠ p) s = find? e s := by
  rw [find?_eq, find?_eq, List.find?_filter]
  congr 1
  funext b
  by_cases hb : b.server.endpoint = s.endpoint <;> simp [hb, h]

/-- Drawn one by one, the new records stand as if they had been put in order at once. -/
theorem Distinct.draw_eq_orderedLike (hold : old.Distinct) (hnew : new.Distinct) :
    draw old new = new.orderedLike old := by
  induction old generalizing new with
  | nil => exact (orderedLike_nil new).symm
  | cons b bs ih =>
    have hleft : Distinct (new.eraseP (·.same b.server)) :=
      List.Nodup.sublist (List.eraseP_sublist.map _) hnew
    -- the servers that follow have other endpoints, and find what they would find in all of them
    have hfind : bs.filterMap (fun c => find? (new.eraseP (·.same b.server)) c.server) =
        bs.filterMap fun c => find? new c.server := by
      refine List.filterMap_congr fun c hc => ?_
      have hne : c.server.endpoint ≠ b.server.endpoint :=
        fun heq => hold.head (heq ▸ List.mem_map_of_mem hc)
      rw [hnew.eraseP_same, find?_filter_of_endpoint_ne hne]
    have hrest : (new.eraseP (·.same b.server)).filter (fun c => (find? bs c.server).isNone) =
        new.filter fun c => (find? (b :: bs) c.server).isNone := by
      rw [hnew.eraseP_same, List.filter_filter]
      refine List.filter_congr fun c _ => ?_
      by_cases hc : b.server.endpoint = c.server.endpoint
      · simp [find?_eq, hc]
      · simp [find?_eq, hc, Ne.symm hc]
    have hfirst : (b :: bs).filterMap (fun c => find? new c.server) =
        (find? new b.server).toList ++ bs.filterMap fun c => find? new c.server := by
      rw [List.filterMap_cons]
      cases find? new b.server <;> rfl
    rw [draw, ih hold.tail hleft, Entry.orderedLike, hfind, hrest, Entry.orderedLike, hfirst,
      List.append_assoc]

/-- Put in the order of the old ones, new servers are the same list only if they are the same. -/
theorem Distinct.servers_orderedLike_eq_iff (hnew : new.Distinct) (hold : old.Distinct) :
    (new.orderedLike old).servers = old.servers ↔ ∀ s, s ∈ old.servers ↔ s ∈ new.servers := by
  have hmem : ∀ s, s ∈ (new.orderedLike old).servers ↔ s ∈ new.servers := fun s =>
    ((hnew.orderedLike_perm hold).map (·.server)).mem_iff
  constructor
  · intro h s
    rw [← h, hmem]
  · intro h
    refine hnew.servers_orderedLike_of_server?_eq hold fun p => ?_
    ext s
    rw [hnew.server?_eq_some_iff, hold.server?_eq_some_iff, h]

theorem ofServers_eq_nil_iff {ss : List Server} {now : Nat} : ofServers ss now = [] ↔ ss = [] := by
  refine ⟨fun h => ?_, fun h => by rw [h]; rfl⟩
  by_contra hne
  exact ofServers_ne_nil hne now h

end Entry

namespace Table

variable {k : Key}

/-- Whatever was done to a table, the servers that a key is set to take the place of those it had:
each once, as of now, first those whose endpoints it had already, in their order, then the others
in theirs. Without servers the key is gone, and a change is told exactly of other servers than
before. -/
theorem run_set_replaces (ops : List Op) (hk : k.port ≠ 0) (ss : List Server) (now : Nat) :
    let before := built ops
    let old := before.entry k
    let new := Entry.ofServers ss now
    ∃ changed after, (Op.set k ss now).run before = (.ok changed, after) ∧
      after.entry k = old.draw new ∧
      (after.entry k).Perm new ∧ (after.entry k).Distinct ∧
      (∀ b ∈ after.entry k, b.confirmed = now) ∧
      (after.entry k).endpoints =
        old.endpoints.filter (· ∈ new.endpoints) ++ new.endpoints.filter (· ∉ old.endpoints) ∧
      (∀ k', k' ≠ k → after.get? k' = before.get? k') ∧
      (after.get? k = none ↔ ss = []) ∧
      (changed = true ↔ ¬ ∀ s, s ∈ old.servers ↔ s ∈ new.servers) := by
  intro before old new
  have hsound : before.Sound := sound_built ops
  have hvalid : k.valid = true := by simpa [Key.valid] using hk
  have hold : old.Distinct := hsound.distinct_entry k
  have hnew : new.Distinct := Entry.distinct_ofServers ss now
  have hperm : (new.orderedLike old).Perm new := hnew.orderedLike_perm hold
  have hset : before.set k new = .ok _ := set_eq_ok_iff.2 ⟨hvalid, rfl⟩
  have hrun : (Op.set k ss now).run before =
      (.ok (decide ((new.orderedLike old).servers ≠ old.servers)),
        before.store k (new.orderedLike old)) := by
    rw [hsound.run_eq, Op.change, hset]
    rfl
  have hentry : (before.store k (new.orderedLike old)).entry k = new.orderedLike old := by
    rw [entry_store, if_pos rfl]
  refine ⟨_, _, hrun, ?_⟩
  rw [hentry]
  refine ⟨(hold.draw_eq_orderedLike hnew).symm, hperm, hnew.orderedLike hold, fun b hb => ?_,
    Entry.endpoints_orderedLike new old, fun k' hk' => ?_, ?_, ?_⟩
  · exact Entry.confirmed_ofServers (hperm.mem_iff.1 hb)
  · rw [get?_store, if_neg hk']
  · have hnil : new.orderedLike old = [] ↔ ss = [] := by
      have hgiven : new = [] ↔ ss = [] := Entry.ofServers_eq_nil_iff
      rw [← hgiven, ← List.length_eq_zero_iff, hperm.length_eq, List.length_eq_zero_iff]
    rw [get?_store, if_pos rfl, ← hnil]
    by_cases h : new.orderedLike old = [] <;> simp [h]
  · rw [decide_eq_true_iff, ne_eq, hnew.servers_orderedLike_eq_iff hold]

/-- Three servers give way to one that is new, one of them in two records, and one as it was. -/
theorem run_set_keeps_places :
    let server (address : String) (index : UInt32) : Server :=
      ⟨address, 8080, 0, "", ⟨"a", index⟩, 0⟩
    let k : Key := ⟨1024, ""⟩
    let ops := [Op.upsert k (server "10.0.0.1" 1) 0, .upsert k (server "10.0.0.2" 1) 1,
      .upsert k (server "10.0.0.3" 1) 2]
    let ss := [server "10.0.0.4" 1, server "10.0.0.3" 2, server "10.0.0.1" 1, server "10.0.0.3" 1]
    k.port ≠ 0 ∧ ∃ changed after, (Op.set k ss 9).run (built ops) = (.ok changed, after) ∧
      after.entry k =
        [⟨server "10.0.0.1" 1, 9⟩, ⟨server "10.0.0.3" 2, 9⟩, ⟨server "10.0.0.4" 1, 9⟩] ∧
      (after.entry k).Perm (Entry.ofServers ss 9) ∧
      (after.get? k = none ↔ ss = []) ∧
      (changed = true ↔
        ¬ ∀ s, s ∈ ((built ops).entry k).servers ↔ s ∈ (Entry.ofServers ss 9).servers) ∧
      server "10.0.0.2" 1 ∈ ((built ops).entry k).servers ∧
      server "10.0.0.2" 1 ∉ (Entry.ofServers ss 9).servers := by
  intro server k ops ss
  have hport : k.port ≠ 0 := by decide
  obtain ⟨changed, after, hrun, hdrawn, hperm, -, -, -, -, hgone, hchanged⟩ :=
    run_set_replaces ops hport ss 9
  exact ⟨hport, changed, after, hrun, hdrawn.trans (by decide +kernel), hperm, hgone, hchanged,
    by decide +kernel, by decide +kernel⟩

end Table
end RouteSync
