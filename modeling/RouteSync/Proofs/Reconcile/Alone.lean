import RouteSync.Proofs.Reconcile.Course

/-! What a sync on its own leaves behind, also where its calls fail: the flag, the table, and what
the proxy hears of it. -/
namespace RouteSync

/-- The reconciler as a sync has it that holds the flag. -/
def Reconciler.busy (r : Reconciler) (held : List Event) : Reconciler :=
  { r with syncing := true, held }

namespace Course

variable {c : Course} {r : Reconciler} {p : Passage} {next : Reconciler × SyncStep}

/-- A sync that has not touched the reconciler. -/
structure Apart (r : Reconciler) (p : Passage) : Prop where
  call : p.call.holds = false
  reconciler : p.reconciler = r
  arrived : p.arrived = []
  listings : p.listings = []
  acts : configured p.acts = []

/-- A sync that holds the flag. It got its listing just if it is about to take it over. -/
structure Inside (r : Reconciler) (p : Passage) : Prop where
  call : p.call.holds = true
  reconciler : p.reconciler = r.busy p.arrived
  listings : ∀ ms, .ok ms ∈ p.listings ↔ p.call = .merging (.ok ms)
  acts : configured p.acts = []

/-- A sync that is over, with its listing or the reason why it got none. -/
structure Over (c : Course) (r : Reconciler) (listing : Reconciler.Listing) (p : Passage) :
    Prop where
  call : p.call = .finished
  reconciler : p.reconciler = ⟨((r.busy p.arrived).finalChange listing c.now).table, false, []⟩
  listings : ∀ ms, .ok ms ∈ p.listings ↔ listing = .ok ms
  acts : configured p.acts = ((r.busy p.arrived).finalChange listing c.now).news

/-- What a sync makes of a reconciler that no other is at. -/
inductive Stands (c : Course) (r : Reconciler) (p : Passage) : Prop
  | apart (h : Apart r p)
  | inside (h : Inside r p)
  | ended (listing : Reconciler.Listing) (h : c.Over r listing p)

theorem Apart.start (r : Reconciler) : Apart r { reconciler := r } := ⟨rfl, rfl, rfl, rfl, rfl⟩

theorem Apart.goOn (h : Apart r p) (hfree : r.syncing = false) (hheld : r.held = [])
    (hnext : c.Goes p next) : c.Stands r (p.goOn (c.input p) next) := by
  have hcall := h.call
  cases hnext with
  | fetched hplace =>
    refine .apart ⟨?_, h.reconciler, h.arrived, ?_, ?_⟩
    · simp only [Passage.goOn]
      cases c.tokens p.tokens.length <;> rfl
    · simp [Passage.goOn, input, hplace, h.listings]
    · simp only [Passage.goOn, configured_append, h.acts]
      cases c.tokens p.tokens.length <;> rfl
  | enters hplace =>
    have henter : SyncCall.enter p.reconciler = (r.busy p.arrived,
        ⟨.listing, [.log (Log.debug "Starting bulk sync of TCP routes."), .list]⟩) := by
      rw [h.reconciler, SyncCall.enter, hfree, Reconciler.busy, h.arrived, ← hheld]
      rfl
    rw [henter]
    refine .inside ⟨rfl, rfl, fun ms => ?_, ?_⟩
    · simp [Passage.goOn, input, hplace, h.listings]
    · simp only [Passage.goOn, configured_append, h.acts]
      rfl
  | listed hplace | refreshed hplace | relisted hplace | ends hplace =>
    rw [hplace] at hcall
    cases hcall

theorem Inside.event (h : Inside r p) (d : Delivery) : Inside r (p.event d) := by
  have hevent : p.reconciler.handle d.event d.now d.outcome =
      ⟨r.busy (p.arrived ++ [d.event]), [.log (Reconciler.heldRecord d.event)]⟩ := by
    rw [h.reconciler]
    rfl
  refine ⟨h.call, by rw [Passage.event, hevent], h.listings, ?_⟩
  rw [Passage.event, hevent, configured_append, h.acts]
  rfl

/-- A sync that keeps the flag leaves the reconciler alone. -/
theorem Inside.keep (h : Inside r p) {input : Watch.SyncInput} {step : SyncStep}
    (hcall : step.call.holds = true) (hsilent : configured step.acts = [])
    (hlistings : ∀ ms, .ok ms ∈ p.listings ++ input.listings ↔ step.call = .merging (.ok ms)) :
    Inside r (p.goOn input (p.reconciler, step)) := by
  refine ⟨hcall, h.reconciler, hlistings, ?_⟩
  rw [Passage.goOn, configured_append, h.acts, hsilent, List.append_nil]

theorem Inside.notMem_listings (h : Inside r p) (hcall : ∀ listing, p.call ≠ .merging listing)
    (ms : List Mapping) : .ok ms ∉ p.listings := fun hms => hcall _ ((h.listings ms).1 hms)

theorem listingOf_eq_ok_iff {answer : ListingAnswer} {ms : List Mapping} :
    SyncCall.listingOf answer = .ok ms ↔ .ok ms = answer := by
  cases answer <;> simp [SyncCall.listingOf, eq_comm]

theorem Inside.goOn (h : Inside r p) (hnext : c.Goes p next) :
    c.Stands r (p.goOn (c.input p) next) := by
  have hcall := h.call
  cases hnext with
  | fetched hplace | enters hplace =>
    rw [hplace] at hcall
    cases hcall
  | listed hplace =>
    have hnone := h.notMem_listings (by simp [hplace])
    simp only [input, hplace]
    unfold SyncCall.listed
    split
    · rename_i hanswer
      exact .inside (h.keep rfl rfl fun ms => by simp [hnone, hanswer])
    · exact .inside (h.keep rfl rfl fun ms => by simp [hnone, listingOf_eq_ok_iff])
  | refreshed hplace =>
    have hnone := h.notMem_listings (by simp [hplace])
    simp only [input, hplace]
    cases c.tokens p.tokens.length with
    | error what => exact .inside (h.keep rfl rfl fun ms => by simp [hnone, SyncCall.refreshed])
    | ok token => exact .inside (h.keep rfl rfl fun ms => by simp [hnone, SyncCall.refreshed])
  | relisted hplace =>
    have hnone := h.notMem_listings (by simp [hplace])
    simp only [input, hplace]
    exact .inside (h.keep rfl rfl fun ms => by
      simp [hnone, SyncCall.relisted, listingOf_eq_ok_iff])
  | @ends listing hplace =>
    simp only [input, hplace]
    refine .ended listing ⟨rfl, ?_, fun ms => ?_, ?_⟩
    · rw [h.reconciler]
      rfl
    · simp [Passage.goOn, h.listings, hplace]
    · simp only [Passage.goOn, configured_append, h.acts, Reconciler.finishSync_eq,
        Reconciler.configured_publish, h.reconciler]
      rfl

namespace Stands

theorem event (h : c.Stands r p) (hholds : p.call.holds = true) (d : Delivery) :
    c.Stands r (p.event d) := by
  cases h with
  | apart h =>
    have hcall := h.call
    rw [hholds] at hcall
    cases hcall
  | inside h => exact .inside (h.event d)
  | ended listing h =>
    rw [h.call] at hholds
    cases hholds

theorem goOn (h : c.Stands r p) (hfree : r.syncing = false) (hheld : r.held = [])
    (hnext : c.Goes p next) : c.Stands r (p.goOn (c.input p) next) := by
  cases h with
  | apart h => exact h.goOn hfree hheld hnext
  | inside h => exact h.goOn hnext
  | ended listing h => exact absurd h.call hnext.ne_finished

theorem free_of_entering (h : c.Stands r p) (hfree : r.syncing = false)
    (hcall : p.call = .entering) : p.reconciler.syncing = false := by
  cases h with
  | apart h => rw [h.reconciler, hfree]
  | inside h =>
    have hholds := h.call
    rw [hcall] at hholds
    cases hholds
  | ended listing h =>
    have hover := h.call
    rw [hcall] at hover
    cases hover

/-- A sync that is over either never touched the reconciler, or ended with some listing or none. -/
theorem finished (h : c.Stands r p) (hcall : p.call = .finished) :
    Apart r p ∨ ∃ listing, c.Over r listing p := by
  cases h with
  | apart h => exact .inl h
  | inside h =>
    have hholds := h.call
    rw [hcall] at hholds
    cases hholds
  | ended listing h => exact .inr ⟨listing, h⟩

end Stands

/-- Wherever a sync stands, and whatever it has asked for by then. -/
theorem stands_after (c : Course) (hfree : r.syncing = false) (hheld : r.held = []) (n : Nat) :
    c.Stands r (c.after r n) ∧ c.Accounted (c.after r n) := by
  refine after_keeps (P := fun p => c.Stands r p ∧ c.Accounted p)
    ⟨.apart (Apart.start r), rfl, rfl⟩ ?_ ?_ n
  · rintro p d hholds ⟨hstands, haccounted⟩
    exact ⟨hstands.event hholds d, haccounted.event d⟩
  · rintro p next - hnext ⟨hstands, haccounted⟩
    exact ⟨hstands.goOn hfree hheld hnext, haccounted.goOn hnext (hstands.free_of_entering hfree)⟩

/-- No event is lost on the way, and none comes twice. -/
theorem allEvents_after (c : Course) (hfree : r.syncing = false) (hheld : r.held = []) (n : Nat) :
    c.allEvents (c.after r n) = (c.asks 0 0).places.flatMap c.due := by
  induction n with
  | zero => rfl
  | succ n ih =>
    have hmet : c.Stands r (c.meanwhile (c.after r n)) :=
      meanwhile_keeps (fun _ d hholds h => h.event hholds d) (c.stands_after hfree hheld n).1
    rw [after, allEvents_next (hmet.free_of_entering hfree), ih]

section Run

variable (c) (hfree : r.syncing = false) (hheld : r.held = [])

include hfree hheld

theorem run_cases : Apart r (c.run r) ∨ ∃ listing, c.Over r listing (c.run r) :=
  (c.stands_after hfree hheld _).1.finished (c.call_run r)

/-- All calls that a sync makes, all listings that it gets, and all events that come meanwhile. -/
theorem exchange_run : sourceCalls (c.run r).acts = (c.asks 0 0).calls ∧
    (c.run r).listings = (c.asks 0 0).listings ∧
    (c.run r).arrived = (c.asks 0 0).places.flatMap c.due := by
  obtain ⟨hcalls, hlistings⟩ := (c.stands_after hfree hheld SyncCall.fetching.left).2
  have hevents := c.allEvents_after hfree hheld SyncCall.fetching.left
  have hcall := c.call_run r
  unfold run at hcall ⊢
  have hnone : c.toCome (c.after r SyncCall.fetching.left) = ⟨[], [], []⟩ := by rw [toCome, hcall]
  rw [hnone, List.append_nil] at hcalls hlistings
  rw [allEvents, hnone, hcall] at hevents
  exact ⟨hcalls, hlistings, by simpa using hevents⟩

/-- In the end the flag is down, and one snapshot was handed over at most. -/
theorem free_run : (c.run r).reconciler.syncing = false ∧ (c.run r).reconciler.held = [] ∧
    (configured (c.run r).acts).length ≤ 1 := by
  obtain h | ⟨listing, h⟩ := c.run_cases hfree hheld
  · rw [h.reconciler, h.acts]
    exact ⟨hfree, hheld, Nat.zero_le 1⟩
  · rw [h.reconciler, h.acts, Change.news]
    refine ⟨rfl, rfl, ?_⟩
    split <;> simp

/-- Without a listing the events are all that a sync puts into effect. -/
theorem table_run_of_failed (hfailed : ∀ ms, .ok ms ∉ (c.run r).listings) :
    (c.run r).reconciler.table = (r.table.replay (c.run r).arrived c.now).table := by
  obtain h | ⟨listing, h⟩ := c.run_cases hfree hheld
  · rw [h.reconciler, h.arrived]
    rfl
  · cases listing with
    | ok ms => exact absurd ((h.listings ms).2 rfl) (hfailed ms)
    | error what =>
      rw [h.reconciler]
      rfl

end Run

end Course

namespace Session

variable {g : Session} {arrived : List Event} {deeds : List Deed}

/-- A sync on its own is one of the ways on. -/
theorem History.after (h : History g arrived deeds) (c : Course) (n : Nat) :
    ∃ more, History
      ⟨(c.after g.reconciler n).reconciler, g.syncs ++ [(c.after g.reconciler n).call]⟩
      (arrived ++ (c.after g.reconciler n).arrived) (deeds ++ more) := by
  refine Course.after_keeps (P := fun p => ∃ more, History ⟨p.reconciler, g.syncs ++ [p.call]⟩
    (arrived ++ p.arrived) (deeds ++ more)) ⟨[], ?_⟩ ?_ ?_ n
  · simpa using h.sync
  · rintro p d - ⟨more, h⟩
    have hevent := h.event d.event d.now d.outcome
    rw [List.append_assoc, List.append_assoc] at hevent
    exact ⟨_, hevent⟩
  · rintro p next hadvance - ⟨more, h⟩
    have hcall : (g.syncs ++ [p.call])[g.syncs.length]? = some p.call := by simp
    have hset : (g.syncs ++ [p.call]).set g.syncs.length next.2.call =
        g.syncs ++ [next.2.call] := by simp
    have hnext := h.advance g.syncs.length c.now (c.input p) hcall hadvance
    rw [List.append_assoc] at hnext
    exact ⟨_, hset ▸ hnext⟩

/-- A sync that finds no other at work: what it asks for by the answers that it gets, which events
it holds meanwhile, and what it leaves where no listing is among the answers. Its flag is down in
the end, and the proxy was called once at most. -/
theorem History.sync_alone (h : History g arrived deeds) (hfree : g.reconciler.syncing = false)
    (c : Course) :
    let r := g.reconciler
    let last := c.run r
    (∃ more, History ⟨last.reconciler, g.syncs ++ [last.call]⟩ (arrived ++ last.arrived)
      (deeds ++ more)) ∧
    (∀ what, c.tokens 0 = .error what →
      last.acts = [.fetchToken false false, SyncCall.tokenFailed what] ∧ last.listings = [] ∧
        last.arrived = [] ∧ ∀ n, (c.after r n).reconciler = r) ∧
    (∀ token, c.tokens 0 = .ok token →
      ((∀ body, c.listings 0 ≠ .error (.unauthorized body)) →
        sourceCalls last.acts = [.fetchToken false true, .useToken token, .list] ∧
          last.listings = [c.listings 0] ∧
          last.arrived = c.due .listing ++ c.due (.merging (SyncCall.listingOf (c.listings 0)))) ∧
      ∀ body, c.listings 0 = .error (.unauthorized body) →
        (∀ what, c.tokens 1 = .error what →
          sourceCalls last.acts =
              [.fetchToken false true, .useToken token, .list, .fetchToken true false] ∧
            last.listings = [c.listings 0] ∧
            last.arrived = c.due .listing ++ c.due .refreshing ++ c.due (.merging (.error what))) ∧
        ∀ token', c.tokens 1 = .ok token' →
          sourceCalls last.acts =
              [.fetchToken false true, .useToken token, .list,
                .fetchToken true true, .useToken token', .list] ∧
            last.listings = [c.listings 0, c.listings 1] ∧
            last.arrived = c.due .listing ++ c.due .refreshing ++ c.due .relisting ++
              c.due (.merging (SyncCall.listingOf (c.listings 1)))) ∧
    ((∀ ms, .ok ms ∉ last.listings) →
      last.reconciler.table = (r.table.replay last.arrived c.now).table) ∧
    last.call = .finished ∧ last.reconciler.syncing = false ∧ last.reconciler.held = [] ∧
    (configured last.acts).length ≤ 1 := by
  intro r last
  have hheld : r.held = [] := h.accounts.calm hfree
  obtain ⟨hcalls, hlistings, harrived⟩ : sourceCalls last.acts = (c.asks 0 0).calls ∧
      last.listings = (c.asks 0 0).listings ∧
      last.arrived = (c.asks 0 0).places.flatMap c.due := c.exchange_run hfree hheld
  refine ⟨h.after c _, fun what htoken => ?_, fun token htoken => ⟨fun hanswer => ?_,
    fun body hanswer => ⟨fun what hnone => ?_, fun token' hnew => ?_⟩⟩,
    c.table_run_of_failed hfree hheld, c.call_run r, c.free_run hfree hheld⟩
  · have hafter := c.after_of_token_error htoken r
    have hlast : last = _ := hafter 5
    refine ⟨by rw [hlast], by rw [hlast], by rw [hlast], fun n => ?_⟩
    cases n with
    | zero => rfl
    | succ n => rw [hafter]
  · rw [hcalls, hlistings, harrived, Course.asks_of_answered htoken hanswer]
    exact ⟨rfl, rfl, by simp [Course.wayOut]⟩
  · rw [hcalls, hlistings, harrived, Course.asks_of_refused htoken hanswer, Course.refreshes, hnone]
    exact ⟨rfl, rfl, by simp⟩
  · rw [hcalls, hlistings, harrived, Course.asks_of_refused htoken hanswer, Course.refreshes, hnew]
    exact ⟨rfl, rfl, by simp [Course.wayOut]⟩

/-- A token is refused, and a new one is given, but the second listing fails. A server is withdrawn
and another comes while they are waited for. -/
theorem failed_sync_replays_events :
    let event (action : Action) (address : String) (index : UInt32) : Event :=
      ⟨action, .bare 1024 address 8080 ⟨"a", index⟩⟩
    let gone := event .delete "10.0.0.1" 2
    let come := event .upsert "10.0.0.2" 1
    let c : Course := {
      tokens := fun n => .ok (if n = 0 then "old" else "new")
      listings := fun n => .error (if n = 0 then .unauthorized "" else .transport)
      events := fun
        | .listing => [⟨gone, 3, .ok ()⟩]
        | .relisting => [⟨come, 5, .ok ()⟩]
        | _ => []
      now := 6
      outcome := .error "no proxy" }
    ∃ g arrived deeds, History g arrived deeds ∧ g.reconciler.syncing = false ∧
      sourceCalls (c.run g.reconciler).acts =
        [.fetchToken false true, .useToken "old", .list,
          .fetchToken true true, .useToken "new", .list] ∧
      (c.run g.reconciler).arrived = [gone, come] ∧
      (c.run g.reconciler).reconciler.table =
        (g.reconciler.table.replay [gone, come] 6).table ∧
      (c.run g.reconciler).reconciler.table.snapshot ≠ g.reconciler.table.snapshot ∧
      (c.run g.reconciler).reconciler.syncing = false ∧
      (configured (c.run g.reconciler).acts).length = 1 := by
  intro event gone come c
  let g : Session :=
    { reconciler := (Reconciler.initial.handle (event .upsert "10.0.0.1" 1) 0 (.ok ())).after }
  have h : History g _ _ := History.start.event (event .upsert "10.0.0.1" 1) 0 (.ok ())
  obtain ⟨-, -, hcalls, htable, -, hflag, -, -⟩ := h.sync_alone rfl c
  obtain ⟨hsecond, hlistings, hevents⟩ := ((hcalls "old" rfl).2 "" rfl).2 "new" rfl
  have harrived : (c.run g.reconciler).arrived = [gone, come] := hevents.trans rfl
  rw [harrived] at htable
  refine ⟨g, _, _, h, rfl, hsecond, harrived, htable fun ms hms => ?_, by decide +kernel, hflag,
    by decide +kernel⟩
  simp [hlistings, c] at hms

end Session
end RouteSync
