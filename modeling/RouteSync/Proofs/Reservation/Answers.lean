import RouteSync.Proofs.Reconcile.Moves

/-! What a success tells the client of a request. The proxy may refuse a table, and the next request
calls on it again only if it changes the table. -/
namespace RouteSync

namespace Reconciler

variable {r : Reconciler} {routes : List (Key × List Server)} {now : Nat} {outcome : Outcome}

theorem taken_of_update {changed : Bool} (h : (r.update routes now outcome).answer = .ok changed)
    (hcalled : configured (r.update routes now outcome).acts ≠ []) : outcome = .ok () := by
  unfold update at h hcalled
  cases hset : setAll now (r.table.unchanged []) routes with
  | mk c fault =>
    rw [hset] at h hcalled
    cases fault with
    | some why => cases h
    | none =>
      cases hc : c.changed with
      | false => simp [hc] at hcalled
      | true =>
        cases outcome with
        | ok taken => rfl
        | error what => simp [hc] at h

end Reconciler

namespace Reservation

variable {r : Reconciler} {routes : List (Key × List Server)} {now : Nat} {outcome : Outcome}

theorem status_ne_ok (why : Reconciler.UpdateError) : status why ≠ 200 := by
  cases why <;> simp [status]

theorem taken_of_apply (hstatus : (apply r routes now outcome).response.status = 200)
    (hcalled : configured (apply r routes now outcome).acts ≠ []) : outcome = .ok () := by
  unfold apply at hstatus hcalled
  dsimp only at hstatus hcalled
  split at hstatus
  · rename_i changed hanswer
    rw [hanswer] at hcalled
    have happlied : configured [applied routes.length changed] = [] := rfl
    rw [configured_append, happlied, List.append_nil] at hcalled
    exact Reconciler.taken_of_update hanswer hcalled
  · rename_i why hanswer
    exact absurd hstatus (status_ne_ok why)

/-- A request for which the proxy is called succeeds only if the proxy takes the table. -/
theorem taken_of_serve {ports : Ports} {q : Http.Request}
    (hstatus : (serve ports r q now outcome).response.status = 200)
    (hcalled : configured (serve ports r q now outcome).acts ≠ []) : outcome = .ok () := by
  have hserves := serves ports r q now outcome
  generalize serve ports r q now outcome = served at hserves hstatus hcalled
  cases hserves with
  | refused hasked hacts hrefused => exact absurd hacts hcalled
  | applied hasked => exact taken_of_apply hstatus hcalled

end Reservation

namespace Session

/-- How the proxy takes what a move hands over. -/
def Move.outcome : Move → Outcome
  | .event _ outcome | .prune outcome | .serve _ _ outcome => outcome
  | .advance _ (.table outcome) => outcome
  | .advance _ _ | .sync => .ok ()

/-- What was handed over, with how it was taken. -/
def calls (acts : List Act) (outcome : Outcome) : List (Snapshot × Outcome) :=
  (configured acts).map (·, outcome)

/-- What a run may come to, and all calls of the proxy in it. -/
inductive Called : Session → List (Snapshot × Outcome) → Prop
  | start : Called {} []
  | step {g : Session} {made : List (Snapshot × Outcome)} {now : Nat} {move : Move} {next : Step}
      (h : Called g made) (hs : g.step now move = some next) :
      Called next.after (made ++ calls next.acts move.outcome)

/-- The last call, if any, took over the table. -/
def Applied (t : Table) (made : List (Snapshot × Outcome)) : Prop :=
  ∀ call ∈ made.getLast?, call = (t.snapshot, .ok ())

variable {g : Session} {made : List (Snapshot × Outcome)} {t u : Table} {acts : List Act}

theorem Applied.taken (h : Applied t made) : ∀ call ∈ made.getLast?, call.2 = .ok () := by
  intro call hcall
  rw [h call hcall]

theorem Called.sound (h : Called g made) : g.reconciler.table.Sound := by
  induction h with
  | start => exact Table.sound_empty
  | step _ hs ih => exact (handedOver_step ih hs).sound

/-- A step calls on the proxy with what the table has become, or leaves what is served as it was. -/
theorem calls_of_handedOver (h : HandedOver t u acts) (outcome : Outcome) :
    (configured acts = [u.snapshot] ∧ calls acts outcome = [(u.snapshot, outcome)]) ∨
      (configured acts = [] ∧ calls acts outcome = [] ∧ u.snapshot = t.snapshot) := by
  obtain ⟨c, hc, rfl, hacts⟩ := h
  rw [calls, hacts, Change.news]
  cases hchanged : c.changed with
  | true => exact .inl ⟨rfl, rfl⟩
  | false => exact .inr ⟨rfl, rfl, hc.told hchanged⟩

theorem Called.last_snapshot (h : Called g made) :
    ∀ call ∈ made.getLast?, call.1 = g.reconciler.table.snapshot := by
  induction h with
  | start =>
    intro call hcall
    cases hcall
  | @step g made now move next h hs ih =>
    intro call hcall
    rcases calls_of_handedOver (handedOver_step h.sound hs) move.outcome with
      ⟨-, hcalls⟩ | ⟨-, hcalls, hsame⟩
    · rw [hcalls, List.getLast?_concat] at hcall
      rw [← Option.some.inj hcall]
    · rw [hcalls, List.append_nil] at hcall
      rw [ih call hcall, hsame]

/-- A success tells that the proxy runs the table, if the request made a change or the call before
it succeeded, and only then. -/
theorem Called.success_applied_iff (h : Called g made) (ports : Reservation.Ports)
    (q : Http.Request) (now : Nat) (outcome : Outcome) {served : Reservation.Served}
    (hserved : Reservation.serve ports g.reconciler q now outcome = served)
    (hstatus : served.response.status = 200) :
    Applied served.after.table (made ++ calls served.acts outcome) ↔
      configured served.acts ≠ [] ∨ ∀ call ∈ made.getLast?, call.2 = .ok () := by
  subst hserved
  have hover := Reservation.handedOver_serve h.sound ports q now outcome
  rcases calls_of_handedOver hover outcome with ⟨hacts, hcalls⟩ | ⟨hacts, hcalls, hsame⟩
  · have hcalled : configured (Reservation.serve ports g.reconciler q now outcome).acts ≠ [] := by
      rw [hacts]
      exact List.cons_ne_nil _ _
    have htaken : outcome = .ok () := Reservation.taken_of_serve hstatus hcalled
    refine ⟨fun _ => .inl hcalled, fun _ call hcall => ?_⟩
    rw [hcalls, List.getLast?_concat] at hcall
    rw [← Option.some.inj hcall, htaken]
  · -- no call, and the last one still handed over what is served
    rw [hcalls, List.append_nil]
    constructor
    · exact fun happlied => .inr happlied.taken
    · rintro (hcalled | htaken) call hcall
      · exact absurd hacts hcalled
      · rw [hsame]
        exact Prod.ext (h.last_snapshot call hcall) (htaken call hcall)

/-- A client that asks for one server behind one port. -/
def reserving : Http.Request where
  method := "POST"
  target := Reservation.path
  contentType := some "application/json"
  body := ("[\x7b\"external_port\":2000,\"backends\":" ++
    "[\x7b\"backend_ip\":\"10.0.0.1\",\"backend_port\":80\x7d]\x7d]").toUTF8.toList

/-- The proxy refuses the route of an event, and takes it with that of a request. -/
theorem request_makes_up_for_refused_event :
    ∃ (g : Session) (made : List (Snapshot × Outcome)) (served : Reservation.Served),
      Called g made ∧ made.map (·.2) = [.error "disk full"] ∧
      Reservation.serve .any g.reconciler reserving 1 (.ok ()) = served ∧
      served.response.status = 200 ∧
      Applied served.after.table (made ++ calls served.acts (.ok ())) := by
  let e : Event := ⟨.upsert, .bare 1024 "10.0.0.1" 8080 ⟨"a", 1⟩⟩
  have hrefused := @Called.step _ _ 0 (.event e (.error "disk full")) _ .start rfl
  have hiff := hrefused.success_applied_iff .any reserving 1 (.ok ()) rfl (by decide +kernel)
  refine ⟨_, _, _, hrefused, by decide +kernel, rfl, by decide +kernel, hiff.2 (.inl ?_)⟩
  decide +kernel

/-- The proxy refuses a request, and the client repeats it. -/
theorem repeated_request_succeeds_unapplied :
    ∃ (g : Session) (made : List (Snapshot × Outcome)) (served : Reservation.Served),
      Called g made ∧
      (Reservation.serve .any .initial reserving 0 (.error "disk full")).response.status = 500 ∧
      g.reconciler =
        (Reservation.serve .any .initial reserving 0 (.error "disk full")).after ∧
      Reservation.serve .any g.reconciler reserving 1 (.error "disk full") = served ∧
      served.response.status = 200 ∧
      ¬ Applied served.after.table (made ++ calls served.acts (.error "disk full")) := by
  have hrefused := @Called.step _ _ 0 (.serve .any reserving (.error "disk full")) _ .start rfl
  refine ⟨_, _, _, hrefused, by decide +kernel, rfl, rfl, by decide +kernel, fun happlied => ?_⟩
  have htaken := happlied.taken
  revert htaken
  decide +kernel

end Session
end RouteSync
