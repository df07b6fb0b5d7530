import RouteSync.Proofs.Reconcile.Caching

/-! A sync on its own, with the answers that it gets and the events that come while it waits: it
goes on to its end, and makes one call after another. -/
namespace RouteSync

/-- Whether an act is a call to the catalogue, or to where its tokens come from. -/
@[simp] def Act.ofSource : Act → Bool
  | .log _ | .configure _ => false
  | .fetchToken .. | .useToken _ | .list | .subscribe _ | .close => true

/-- The calls to the catalogue, and to where its tokens come from, in order. -/
def sourceCalls (acts : List Act) : List Act := acts.filter Act.ofSource

@[simp] theorem sourceCalls_nil : sourceCalls [] = [] := rfl

@[simp] theorem sourceCalls_cons (act : Act) (acts : List Act) :
    sourceCalls (act :: acts) =
      if act.ofSource then act :: sourceCalls acts else sourceCalls acts := List.filter_cons

@[simp] theorem sourceCalls_append (acts more : List Act) :
    sourceCalls (acts ++ more) = sourceCalls acts ++ sourceCalls more := List.filter_append ..

@[simp] theorem sourceCalls_logs (records : List Log.Record) :
    sourceCalls (Act.logs records) = [] := by
  simp [sourceCalls, Act.logs]

theorem Reconciler.sourceCalls_publish (c : Change) (outcome : Outcome) :
    sourceCalls (publish c outcome) = [] := by
  unfold publish
  rw [sourceCalls_append, sourceCalls_logs, List.nil_append]
  split
  · cases outcome <;> rfl
  · rfl

/-- What a sync meets: the answers to the tokens and listings that it asks for, by their numbers,
and the events that come at each place where it holds the flag. -/
structure Course where
  tokens : Nat → TokenAnswer
  listings : Nat → ListingAnswer
  events : SyncCall → List Delivery
  /-- When the sync ends. -/
  now : Nat
  /-- How the proxy takes what the sync hands over. -/
  outcome : Outcome

/-- A sync on its way: where it stands, the answers it got, what was done, and the events that came
while it held the flag. -/
structure Passage where
  reconciler : Reconciler
  call : SyncCall := .fetching
  tokens : List TokenAnswer := []
  listings : List ListingAnswer := []
  acts : List Act := []
  arrived : List Event := []

@[simp] def Watch.SyncInput.tokens : SyncInput → List TokenAnswer
  | .token answer => [answer]
  | .listing _ | .table _ => []

@[simp] def Watch.SyncInput.listings : SyncInput → List ListingAnswer
  | .listing answer => [answer]
  | .token _ | .table _ => []

namespace Passage

def event (p : Passage) (d : Delivery) : Passage :=
  let step := p.reconciler.handle d.event d.now d.outcome
  { p with
    reconciler := step.after, acts := p.acts ++ step.acts, arrived := p.arrived ++ [d.event] }

def goOn (p : Passage) (input : Watch.SyncInput) (next : Reconciler × SyncStep) : Passage where
  reconciler := next.1
  call := next.2.call
  tokens := p.tokens ++ input.tokens
  listings := p.listings ++ input.listings
  acts := p.acts ++ next.2.acts
  arrived := p.arrived

theorem arrived_foldl_event (p : Passage) (ds : List Delivery) :
    (ds.foldl event p).arrived = p.arrived ++ ds.map Delivery.event := by
  induction ds generalizing p with
  | nil => simp
  | cons d ds ih => simp [ih, event]

end Passage

namespace Course

/-- What the sync gets next. -/
def input (c : Course) (p : Passage) : Watch.SyncInput :=
  match p.call with
  | .fetching | .refreshing => .token (c.tokens p.tokens.length)
  | .listing | .relisting => .listing (c.listings p.listings.length)
  | .entering | .merging _ | .finished => .table c.outcome

def meanwhile (c : Course) (p : Passage) : Passage :=
  if p.call.holds then (c.events p.call).foldl Passage.event p else p

/-- One step of the sync, after the events that come before it. -/
def next (c : Course) (p : Passage) : Passage :=
  let met := c.meanwhile p
  match met.call.advance met.reconciler c.now (c.input met) with
  | some next => met.goOn (c.input met) next
  | none => met

/-- The sync after so many steps. -/
def after (c : Course) (r : Reconciler) : Nat → Passage
  | 0 => { reconciler := r }
  | n + 1 => c.next (c.after r n)

end Course

/-- How many steps a sync has before it at most. -/
def SyncCall.left : SyncCall → Nat
  | .fetching => 6
  | .entering => 5
  | .listing => 4
  | .refreshing => 3
  | .relisting => 2
  | .merging _ => 1
  | .finished => 0

/-- A sync from its start to its end. -/
def Course.run (c : Course) (r : Reconciler) : Passage := c.after r SyncCall.fetching.left

namespace Course

variable {c : Course} {r : Reconciler} {p : Passage} {next : Reconciler × SyncStep}

/-- The ways in which a sync goes on, with the answer that it gets. -/
inductive Goes (c : Course) (p : Passage) : Reconciler × SyncStep → Prop
  | fetched (hcall : p.call = .fetching) :
      Goes c p (p.reconciler, SyncCall.fetched (c.tokens p.tokens.length))
  | enters (hcall : p.call = .entering) : Goes c p (SyncCall.enter p.reconciler)
  | listed (hcall : p.call = .listing) :
      Goes c p (p.reconciler, SyncCall.listed (c.listings p.listings.length))
  | refreshed (hcall : p.call = .refreshing) :
      Goes c p (p.reconciler, SyncCall.refreshed (c.tokens p.tokens.length))
  | relisted (hcall : p.call = .relisting) :
      Goes c p (p.reconciler, SyncCall.relisted (c.listings p.listings.length))
  | ends {listing : Reconciler.Listing} (hcall : p.call = .merging listing) :
      Goes c p ((p.reconciler.finishSync listing c.now c.outcome).after,
        ⟨.finished, (p.reconciler.finishSync listing c.now c.outcome).acts⟩)

/-- A sync goes on unless it is over. -/
theorem advance_eq (c : Course) (p : Passage) :
    (p.call = .finished ∧ p.call.advance p.reconciler c.now (c.input p) = none) ∨
      ∃ next, p.call.advance p.reconciler c.now (c.input p) = some next ∧ c.Goes p next := by
  unfold input
  cases hcall : p.call with
  | fetching => exact .inr ⟨_, rfl, .fetched hcall⟩
  | entering => exact .inr ⟨_, rfl, .enters hcall⟩
  | listing => exact .inr ⟨_, rfl, .listed hcall⟩
  | refreshing => exact .inr ⟨_, rfl, .refreshed hcall⟩
  | relisting => exact .inr ⟨_, rfl, .relisted hcall⟩
  | merging listing => exact .inr ⟨_, rfl, .ends hcall⟩
  | finished => exact .inl ⟨rfl, rfl⟩

theorem meanwhile_keeps {P : Passage → Prop}
    (hevent : ∀ p d, p.call.holds = true → P p → P (p.event d)) (h : P p) :
    P (c.meanwhile p) := by
  unfold meanwhile
  split
  · rename_i hholds
    generalize c.events p.call = ds
    induction ds generalizing p with
    | nil => exact h
    | cons d ds ih => exact ih (hevent p d hholds h) hholds
  · exact h

theorem call_meanwhile (c : Course) (p : Passage) : (c.meanwhile p).call = p.call :=
  meanwhile_keeps (P := fun q => q.call = p.call) (fun _ _ _ h => h) rfl

theorem next_eq (c : Course) (p : Passage) :
    ((c.meanwhile p).call = .finished ∧ c.next p = c.meanwhile p) ∨
      ∃ next, c.Goes (c.meanwhile p) next ∧
        c.next p = (c.meanwhile p).goOn (c.input (c.meanwhile p)) next := by
  unfold Course.next
  obtain ⟨hover, hnone⟩ | ⟨next, hadvance, hgoes⟩ := c.advance_eq (c.meanwhile p)
  · exact .inl ⟨hover, by simp only [hnone]⟩
  · exact .inr ⟨next, hgoes, by simp only [hadvance]⟩

/-- What the events keep that come, and the steps of the sync, is kept for ever. -/
theorem after_keeps {P : Passage → Prop} (hstart : P { reconciler := r })
    (hevent : ∀ p d, p.call.holds = true → P p → P (p.event d))
    (hgoes : ∀ p next, p.call.advance p.reconciler c.now (c.input p) = some next →
      c.Goes p next → P p → P (p.goOn (c.input p) next)) (n : Nat) : P (c.after r n) := by
  induction n with
  | zero => exact hstart
  | succ n ih =>
    have hmet := meanwhile_keeps (c := c) hevent ih
    unfold after Course.next
    obtain ⟨-, hnone⟩ | ⟨next, hadvance, hnext⟩ := c.advance_eq (c.meanwhile (c.after r n))
    · simpa only [hnone] using hmet
    · simpa only [hadvance] using hgoes _ next hadvance hnext hmet

section Length

theorem Goes.left_lt (h : c.Goes p next) : next.2.call.left < p.call.left := by
  cases h with
  | fetched hcall =>
    rw [hcall]
    cases c.tokens p.tokens.length <;> simp [SyncCall.fetched, SyncCall.left]
  | enters hcall =>
    rw [hcall]
    unfold SyncCall.enter
    split <;> simp [SyncCall.left]
  | listed hcall =>
    rw [hcall]
    unfold SyncCall.listed
    split <;> simp [SyncCall.left]
  | refreshed hcall =>
    rw [hcall]
    cases c.tokens p.tokens.length <;> simp [SyncCall.refreshed, SyncCall.left]
  | relisted hcall =>
    rw [hcall]
    simp [SyncCall.relisted, SyncCall.left]
  | ends hcall =>
    rw [hcall]
    exact Nat.one_pos

theorem Goes.ne_finished (h : c.Goes p next) : p.call ≠ .finished := by
  intro hcall
  have hleft := h.left_lt
  rw [hcall] at hleft
  exact absurd hleft (Nat.not_lt_zero _)

theorem left_next (c : Course) (p : Passage) : (c.next p).call.left ≤ p.call.left - 1 := by
  obtain ⟨hover, hnext⟩ | ⟨next, hgoes, hnext⟩ := c.next_eq p
  · rw [hnext, hover]
    exact Nat.zero_le _
  · rw [hnext, ← c.call_meanwhile p]
    exact Nat.le_pred_of_lt hgoes.left_lt

theorem left_after (c : Course) (r : Reconciler) (n : Nat) :
    (c.after r n).call.left ≤ SyncCall.fetching.left - n := by
  induction n with
  | zero => exact Nat.le_refl _
  | succ n ih =>
    have hnext := c.left_next (c.after r n)
    rw [after]
    omega

/-- No sync takes more steps than that. -/
theorem call_run (c : Course) (r : Reconciler) : (c.run r).call = .finished := by
  have hleft := c.left_after r SyncCall.fetching.left
  rw [Nat.sub_self, Nat.le_zero] at hleft
  unfold run
  cases hcall : (c.after r SyncCall.fetching.left).call with
  | finished => rfl
  | fetching | entering | listing | refreshing | relisting | merging =>
    rw [hcall] at hleft
    cases hleft

end Length

section Calls

/-- Calls of a sync, the listings that it gets for them, and the places that it comes to. -/
structure Exchange where
  calls : List Act
  listings : List ListingAnswer
  places : List SyncCall

/-- The `m`-th listing is taken over, or the reason why there is none. -/
def wayOut (c : Course) (m : Nat) : List SyncCall :=
  [.merging (SyncCall.listingOf (c.listings m)), .finished]

/-- After a token was refused: the `n`-th token by force, and the `m`-th listing with it. -/
def refreshes (c : Course) (n m : Nat) : Exchange :=
  match c.tokens n with
  | .ok token =>
    ⟨[.fetchToken true true, .useToken token, .list], [c.listings m], .relisting :: c.wayOut m⟩
  | .error what => ⟨[.fetchToken true false], [], [.merging (.error what), .finished]⟩

/-- The `m`-th listing was asked for. -/
def relists (c : Course) (n m : Nat) : Exchange :=
  match c.listings m with
  | .error (.unauthorized _) =>
    let rest := c.refreshes n (m + 1)
    ⟨rest.calls, c.listings m :: rest.listings, .refreshing :: rest.places⟩
  | answer => ⟨[], [answer], c.wayOut m⟩

/-- From the `n`-th token and the `m`-th listing on. -/
def asks (c : Course) (n m : Nat) : Exchange :=
  match c.tokens n with
  | .ok token =>
    let rest := c.relists (n + 1) m
    ⟨.fetchToken false true :: .useToken token :: .list :: rest.calls, rest.listings,
      .entering :: .listing :: rest.places⟩
  | .error _ => ⟨[.fetchToken false false], [], [.finished]⟩

/-- A listing that was not refused is the only one. -/
theorem asks_of_answered {n m : Nat} {token : String} (htoken : c.tokens n = .ok token)
    (hanswer : ∀ body, c.listings m ≠ .error (.unauthorized body)) :
    c.asks n m = ⟨[.fetchToken false true, .useToken token, .list], [c.listings m],
      .entering :: .listing :: c.wayOut m⟩ := by
  have hrelists : c.relists (n + 1) m = ⟨[], [c.listings m], c.wayOut m⟩ := by
    unfold relists
    split
    · rename_i body hrefused
      exact absurd hrefused (hanswer body)
    · rfl
  rw [asks, htoken, hrelists]

theorem asks_of_refused {n m : Nat} {token body : String} (htoken : c.tokens n = .ok token)
    (hanswer : c.listings m = .error (.unauthorized body)) :
    c.asks n m =
      ⟨[.fetchToken false true, .useToken token, .list] ++ (c.refreshes (n + 1) (m + 1)).calls,
        c.listings m :: (c.refreshes (n + 1) (m + 1)).listings,
        .entering :: .listing :: .refreshing :: (c.refreshes (n + 1) (m + 1)).places⟩ := by
  simp [asks, htoken, relists, hanswer]

/-- What is still to come. -/
def toCome (c : Course) (p : Passage) : Exchange :=
  let n := p.tokens.length
  let m := p.listings.length
  match p.call with
  | .fetching => c.asks n m
  | .entering =>
    let rest := c.relists n m
    ⟨.list :: rest.calls, rest.listings, .listing :: rest.places⟩
  | .listing => c.relists n m
  | .refreshing => c.refreshes n m
  | .relisting => ⟨[], [c.listings m], c.wayOut m⟩
  | .merging _ => ⟨[], [], [.finished]⟩
  | .finished => ⟨[], [], []⟩

/-- What was asked for and got so far makes the whole exchange with what is still to come. -/
structure Accounted (c : Course) (p : Passage) : Prop where
  calls : sourceCalls p.acts ++ (c.toCome p).calls = (c.asks 0 0).calls
  listings : p.listings ++ (c.toCome p).listings = (c.asks 0 0).listings

theorem sourceCalls_event (p : Passage) (d : Delivery) :
    sourceCalls (p.event d).acts = sourceCalls p.acts := by
  have hhandle : sourceCalls (p.reconciler.handle d.event d.now d.outcome).acts = [] := by
    unfold Reconciler.handle
    split
    · rfl
    · exact Reconciler.sourceCalls_publish _ _
  rw [Passage.event, sourceCalls_append, hhandle, List.append_nil]

theorem Accounted.event (h : c.Accounted p) (d : Delivery) : c.Accounted (p.event d) where
  calls := by
    rw [sourceCalls_event]
    exact h.calls
  listings := h.listings

/-- What comes next is the first of what is still to come. -/
theorem Goes.toCome_eq (h : c.Goes p next)
    (hfree : p.call = .entering → p.reconciler.syncing = false) :
    c.toCome p =
      let rest := c.toCome (p.goOn (c.input p) next)
      ⟨sourceCalls next.2.acts ++ rest.calls, (c.input p).listings ++ rest.listings,
        next.2.call :: rest.places⟩ := by
  cases h with
  | fetched hcall =>
    cases htoken : c.tokens p.tokens.length <;>
      simp [toCome, hcall, input, Passage.goOn, asks, htoken, SyncCall.fetched,
        SyncCall.tokenFailed]
  | enters hcall => simp [toCome, hcall, input, Passage.goOn, SyncCall.enter, hfree hcall]
  | listed hcall =>
    simp only [toCome, hcall, input, Passage.goOn, relists]
    unfold SyncCall.listed
    split <;> simp [wayOut, *]
  | refreshed hcall =>
    cases htoken : c.tokens p.tokens.length <;>
      simp [toCome, hcall, input, Passage.goOn, refreshes, htoken, SyncCall.refreshed]
  | relisted hcall => simp [toCome, hcall, input, Passage.goOn, SyncCall.relisted, wayOut]
  | @ends listing hcall =>
    have hpublish : sourceCalls (p.reconciler.finishSync listing c.now c.outcome).acts = [] :=
      Reconciler.sourceCalls_publish _ _
    simp [toCome, hcall, input, Passage.goOn, hpublish]

theorem Accounted.goOn (h : c.Accounted p) (hnext : c.Goes p next)
    (hfree : p.call = .entering → p.reconciler.syncing = false) :
    c.Accounted (p.goOn (c.input p) next) := by
  obtain ⟨hcalls, hlistings⟩ := h
  rw [hnext.toCome_eq hfree] at hcalls hlistings
  refine ⟨?_, ?_⟩
  · rw [← hcalls, ← List.append_assoc, ← sourceCalls_append]
    rfl
  · rw [← hlistings, ← List.append_assoc]
    rfl

/-- The events that come at a place. -/
def due (c : Course) (call : SyncCall) : List Event :=
  if call.holds then (c.events call).map Delivery.event else []

@[simp] theorem due_entering (c : Course) : c.due .entering = [] := rfl

@[simp] theorem due_finished (c : Course) : c.due .finished = [] := rfl

/-- The events that came, and those that are still to come. -/
def allEvents (c : Course) (p : Passage) : List Event :=
  p.arrived ++ (p.call :: (c.toCome p).places).flatMap c.due

theorem arrived_meanwhile (c : Course) (p : Passage) :
    (c.meanwhile p).arrived = p.arrived ++ c.due p.call := by
  unfold meanwhile due
  split
  · exact p.arrived_foldl_event _
  · rw [List.append_nil]

theorem allEvents_next
    (hfree : (c.meanwhile p).call = .entering → (c.meanwhile p).reconciler.syncing = false) :
    c.allEvents (c.next p) = c.allEvents p := by
  have htoCome : c.toCome (c.meanwhile p) = c.toCome p :=
    meanwhile_keeps (P := fun q => c.toCome q = c.toCome p) (fun _ _ _ h => h) rfl
  have hmet : c.allEvents p =
      (c.meanwhile p).arrived ++ (c.toCome (c.meanwhile p)).places.flatMap c.due := by
    rw [allEvents, arrived_meanwhile, htoCome, List.flatMap_cons, List.append_assoc]
  rw [hmet]
  obtain ⟨hover, hnext⟩ | ⟨next, hgoes, hnext⟩ := c.next_eq p
  · rw [hnext, allEvents, hover]
    rfl
  · rw [hnext, hgoes.toCome_eq hfree]
    rfl

/-- Without a token nothing comes of a sync. -/
theorem after_of_token_error {what : String} (h : c.tokens 0 = .error what) (r : Reconciler)
    (n : Nat) :
    c.after r (n + 1) =
      { reconciler := r, call := .finished, tokens := [.error what]
        acts := [.fetchToken false false, SyncCall.tokenFailed what] } := by
  induction n with
  | zero =>
    simp [after, Course.next, meanwhile, SyncCall.holds, input, h, SyncCall.advance,
      SyncCall.fetched, Passage.goOn]
  | succ n ih =>
    rw [after, ih]
    rfl

end Calls

end Course
end RouteSync
