import RouteSync.Proofs.Reconcile.Refused
import RouteSync.Proofs.Table.Merged

/-! Listings in a session: what each replaces, and that the proxy hears nothing of one that names
the same servers again. -/
namespace RouteSync

namespace Reconciler

variable {r : Reconciler}

/-- With no event held, a sync ends with what it makes of its listing. -/
theorem finalChange_of_held_nil (h : r.held = []) (listing : Listing) (now : Nat) :
    (r.finalChange listing now).table = (mergeListing r.table listing now).table ∧
      (r.finalChange listing now).changed = (mergeListing r.table listing now).changed := by
  rw [finalChange, h]
  exact ⟨rfl, Bool.or_false _⟩

end Reconciler

/-- A step of a sync that takes over no listing leaves the table alone, if no event is held. -/
theorem SyncCall.quiet_advance {call : SyncCall} {r : Reconciler} {now : Nat}
    {input : Watch.SyncInput} {next : Reconciler × SyncStep}
    (hcall : ∀ ms, call ≠ .merging (.ok ms)) (hheld : r.held = [])
    (hn : call.advance r now input = some next) :
    next.1.table = r.table ∧ next.1.held = [] ∧ configured next.2.acts = [] := by
  unfold advance at hn
  split at hn
  · rename_i answer
    obtain rfl := Option.some.inj hn
    cases answer <;> exact ⟨rfl, hheld, rfl⟩
  · obtain rfl := Option.some.inj hn
    unfold enter
    split <;> exact ⟨rfl, hheld, rfl⟩
  · obtain rfl := Option.some.inj hn
    unfold listed
    split <;> exact ⟨rfl, hheld, rfl⟩
  · rename_i answer
    obtain rfl := Option.some.inj hn
    cases answer <;> exact ⟨rfl, hheld, rfl⟩
  · obtain rfl := Option.some.inj hn
    exact ⟨rfl, hheld, rfl⟩
  · rename_i answer outcome
    obtain rfl := Option.some.inj hn
    cases answer with
    | ok ms => exact absurd rfl (hcall ms)
    | error what =>
      obtain ⟨htable, hchanged⟩ := Reconciler.finalChange_of_held_nil hheld (.error what) now
      refine ⟨htable, rfl, ?_⟩
      rw [Reconciler.finishSync_eq, Reconciler.configured_publish, Change.news, hchanged]
      rfl
  · cases hn

namespace Session

/-- A sync that got its listing ends, and takes the listing over. -/
def Merges (g : Session) (ms : List Mapping) (now : Nat) (next : Step) : Prop :=
  ∃ index outcome, g.syncs[index]? = some (.merging (.ok ms)) ∧
    g.step now (.advance index (.table outcome)) = some next

/-- Nothing happens but that syncs are called and go on, and none of them takes over a listing. -/
inductive Quiet (first : Session) : Session → List Act → Prop
  | start : Quiet first first []
  | sync {g : Session} {acts : List Act} (h : Quiet first g acts) :
      Quiet first { g with syncs := g.syncs ++ [.fetching] } acts
  | advance {g : Session} {acts : List Act} (h : Quiet first g acts) (index now : Nat)
      (input : Watch.SyncInput) {call : SyncCall} {next : Reconciler × SyncStep}
      (hcall : g.syncs[index]? = some call) (hquiet : ∀ ms, call ≠ .merging (.ok ms))
      (hnext : call.advance g.reconciler now input = some next) :
      Quiet first ⟨next.1, g.syncs.set index next.2.call⟩ (acts ++ next.2.acts)

variable {first g : Session} {acts : List Act} {arrived : List Event} {deeds : List Deed}
  {ms ms' : List Mapping} {now later : Nat} {next : Step}

theorem Quiet.keeps (h : Quiet first g acts) (hheld : first.reconciler.held = []) :
    g.reconciler.table = first.reconciler.table ∧ g.reconciler.held = [] ∧
      configured acts = [] := by
  induction h with
  | start => exact ⟨rfl, hheld, rfl⟩
  | sync _ ih => exact ih
  | advance _ index now input hcall hquiet hnext ih =>
    obtain ⟨htable, hnone, hacts⟩ := ih
    obtain ⟨htable', hnone', hacts'⟩ := SyncCall.quiet_advance hquiet hnone hnext
    exact ⟨htable'.trans htable, hnone', by rw [configured_append, hacts, hacts']; rfl⟩

theorem Merges.after (h : g.Merges ms now next) (hheld : g.reconciler.held = []) :
    next.after.reconciler.table = (g.reconciler.table.merge ms now).table ∧
      next.after.reconciler.held = [] ∧
      configured next.acts = (g.reconciler.table.merge ms now).news := by
  obtain ⟨index, outcome, hcall, hstep⟩ := h
  have hfinish : next = ⟨⟨(g.reconciler.finishSync (.ok ms) now outcome).after,
      g.syncs.set index .finished⟩, (g.reconciler.finishSync (.ok ms) now outcome).acts⟩ := by
    rw [step, hcall] at hstep
    exact (Option.some.inj hstep).symm
  obtain ⟨htable, hchanged⟩ := Reconciler.finalChange_of_held_nil hheld (.ok ms) now
  rw [hfinish, Reconciler.finishSync_eq]
  refine ⟨htable, rfl, ?_⟩
  rw [Reconciler.configured_publish, Change.news, hchanged, htable]
  rfl

/-- A listing replaces the servers of just those keys that it names by some valid mapping, and tells
whether that makes a difference. -/
theorem History.merge_replaces_named (h : History g arrived deeds) (ms : List Mapping)
    (now : Nat) :
    let before := g.reconciler.table
    let merged := before.merge ms now
    (∀ k, (∃ m ∈ ms, ∃ s, m.route = .ok (k, s)) →
      ∃ entry, merged.table.get? k = some entry ∧
        entry.servers.Perm (Entry.ofServers (ms.filterMap (Mapping.serverFor k)) now).servers ∧
        ∀ b ∈ entry, b.confirmed = now) ∧
    (∀ k, (∀ m ∈ ms, ∀ s, m.route ≠ .ok (k, s)) → merged.table.get? k = before.get? k) ∧
    (merged.changed = true ↔ merged.table.snapshot ≠ before.snapshot) := by
  intro before merged
  have hsound : before.Sound := h.sound
  refine ⟨fun k hk => ?_, fun k hk => ?_, hsound.exact_merge ms now⟩
  · have hne : ms.filterMap (Mapping.serverFor k) ≠ [] := by
      obtain ⟨m, hm, s, hroute⟩ := hk
      exact List.ne_nil_of_mem (Mapping.mem_servers_iff.2 ⟨m, hm, hroute⟩)
    have hd := Entry.distinct_ofServers (ms.filterMap (Mapping.serverFor k)) now
    have hperm := hd.orderedLike_perm (hsound.distinct_entry k)
    refine ⟨_, (hsound.get?_merge ms now k).trans (if_neg hne), hperm.map _, fun b hb => ?_⟩
    exact Entry.confirmed_ofServers (hperm.mem_iff.1 hb)
  · exact (hsound.get?_merge ms now k).trans (if_pos (Table.filterMap_serverFor_eq_nil_iff.2 hk))

/-- Two records of a server, one that stood there, and mappings that describe no route. -/
theorem listing_leaves_key_without_valid_mapping :
    let record (port : UInt32) (address : String) (index : UInt32) : Mapping :=
      .bare port address 8080 ⟨"a", index⟩
    let ms := [record 1024 "10.0.0.1" 2, record 80 "" 3, record 1024 "10.0.0.2" 1,
      record 1024 "10.0.0.1" 1, record 0 "10.0.0.4" 1]
    ∃ g arrived deeds, History g arrived deeds ∧
      let before := g.reconciler.table
      let merged := before.merge ms 9
      before.get? ⟨80, ""⟩ = some [⟨⟨"10.0.0.4", 8080, 0, "", ⟨"a", 1⟩, 0⟩, 2⟩] ∧
      merged.table.get? ⟨80, ""⟩ = before.get? ⟨80, ""⟩ ∧
      ((merged.table.entry ⟨1024, ""⟩).servers.map fun s => (s.address, s.tag.index)) =
        [("10.0.0.2", 1), ("10.0.0.1", 2)] ∧
      (∃ entry, merged.table.get? ⟨1024, ""⟩ = some entry ∧
        entry.servers.Perm
          (Entry.ofServers (ms.filterMap (Mapping.serverFor ⟨1024, ""⟩)) 9).servers ∧
        ∀ b ∈ entry, b.confirmed = 9) ∧
      (merged.changed = true ↔ merged.table.snapshot ≠ before.snapshot) := by
  intro record ms
  have h := (((History.start.event ⟨.upsert, record 1024 "10.0.0.3" 1⟩ 0 (.ok ())).event
    ⟨.upsert, record 1024 "10.0.0.2" 1⟩ 1 (.ok ())).event ⟨.upsert, record 80 "10.0.0.4" 1⟩ 2
    (.ok ()))
  obtain ⟨hnamed, hother, hexact⟩ := h.merge_replaces_named ms 9
  have hroutes : ∀ r ∈ Mapping.routes ms, r.1 = ⟨1024, ""⟩ := by decide +kernel
  have hroute : (record 1024 "10.0.0.2" 1).route =
      .ok (⟨1024, ""⟩, ⟨"10.0.0.2", 8080, 0, "", ⟨"a", 1⟩, 0⟩) := by decide +kernel
  refine ⟨_, _, _, h, by decide +kernel, hother _ fun m hm s hroute => ?_, by decide +kernel,
    hnamed ⟨1024, ""⟩ ⟨_, by simp [ms], _, hroute⟩, hexact⟩
  exact absurd (hroutes _ (Mapping.mem_routes_iff.2 ⟨m, hm, hroute⟩)) (by simp)

/-- A sync takes over a listing, and the next one takes over the same mappings in some order: then
the same is served, nothing is handed over, and each listed server is confirmed anew. -/
theorem History.repeated_listing_silent (h : History g arrived deeds)
    (hms : Mapping.Ranked ms) (hperm : ms.Perm ms') (hheld : g.reconciler.held = [])
    (hfirst : g.Merges ms now next) {g' : Session} (hquiet : Quiet next.after g' acts)
    {last : Step} (hsecond : g'.Merges ms' later last) :
    last.after.reconciler.table.snapshot = next.after.reconciler.table.snapshot ∧
      configured (acts ++ last.acts) = [] ∧
      ∀ m ∈ ms, ∀ k s, m.route = .ok (k, s) →
        last.after.reconciler.table.confirmed? k s.endpoint = some later := by
  have hsound := h.sound
  obtain ⟨htable, hnone, -⟩ := hfirst.after hheld
  obtain ⟨hsame, hnone', hacts⟩ := hquiet.keeps hnone
  obtain ⟨hlast, -, hlastActs⟩ := hsecond.after hnone'
  rw [hsame, htable] at hlast hlastActs
  have hsnapshot := hsound.snapshot_merge_again hms hperm now later
  have hmerged := (hsound.honest_merge ms now).sound
  refine ⟨by rw [hlast, htable, hsnapshot], ?_, fun m hm k s hroute => ?_⟩
  · have hunchanged : ((g.reconciler.table.merge ms now).table.merge ms' later).changed = false :=
      Bool.eq_false_iff.2 fun hchanged => (hmerged.exact_merge ms' later).1 hchanged hsnapshot
    rw [configured_append, hacts, hlastActs, Change.news, hunchanged]
    rfl
  · rw [hlast]
    exact hmerged.confirmed?_merge (hperm.subset hm) hroute later

/-- A listing with two records of a server, and the same again after a sync that failed. -/
theorem listing_in_other_order_silent :
    let record (address : String) (index : UInt32) : Mapping :=
      .bare 1024 address 8080 ⟨"a", index⟩
    let ms := [record "10.0.0.1" 2, record "10.0.0.2" 1, record "10.0.0.1" 1]
    let ms' := [record "10.0.0.1" 1, record "10.0.0.1" 2, record "10.0.0.2" 1]
    ∃ g arrived deeds next g' acts last, History g arrived deeds ∧ Merges g ms 3 next ∧
      (configured next.acts).length = 1 ∧ Quiet next.after g' acts ∧ Merges g' ms' 9 last ∧
      last.after.reconciler.table.snapshot = next.after.reconciler.table.snapshot ∧
      configured (acts ++ last.acts) = [] ∧
      last.after.reconciler.table.confirmed? ⟨1024, ""⟩ ("10.0.0.1", 8080) = some 9 := by
  intro record ms ms'
  let g : Session := ⟨{ Reconciler.initial with syncing := true }, [.merging (.ok ms)]⟩
  let next : Step := ⟨⟨(g.reconciler.finishSync (.ok ms) 3 (.ok ())).after, [.finished]⟩,
    (g.reconciler.finishSync (.ok ms) 3 (.ok ())).acts⟩
  have h : History g [] [] := ((History.start.sync.advance 0 1 (.token (.ok "t")) rfl rfl).advance 0
    1 (.table (.ok ())) rfl rfl).advance 0 2 (.listing (.ok ms)) rfl rfl
  have hfirst : g.Merges ms 3 next := ⟨0, .ok (), rfl, rfl⟩
  have hcalled := (Quiet.start : Quiet next.after next.after []).sync
  have hfailed := (((hcalled.advance 1 4 (.token (.ok "t")) rfl nofun rfl).advance 1 4
    (.table (.ok ())) rfl nofun rfl).advance 1 5 (.listing (.error .transport)) rfl nofun
    rfl).advance 1 6 (.table (.ok ())) rfl nofun rfl
  have hquiet := ((hfailed.sync.advance 2 7 (.token (.ok "t")) rfl nofun rfl).advance 2 7
    (.table (.ok ())) rfl nofun rfl).advance 2 8 (.listing (.ok ms')) rfl nofun rfl
  have hms : Mapping.Ranked ms := by decide +kernel
  have hperm : ms.Perm ms' := by decide +kernel
  obtain ⟨hsnapshot, hacts, hconfirmed⟩ :=
    h.repeated_listing_silent hms hperm rfl hfirst hquiet ⟨2, .ok (), rfl, rfl⟩
  refine ⟨g, [], [], next, _, _, _, h, hfirst, by decide +kernel, hquiet, ⟨2, .ok (), rfl, rfl⟩,
    hsnapshot, hacts, ?_⟩
  exact hconfirmed (record "10.0.0.1" 1) (by simp [ms]) ⟨1024, ""⟩
    ⟨"10.0.0.1", 8080, 0, "", ⟨"a", 1⟩, 0⟩ (by decide +kernel)

end Session
end RouteSync
