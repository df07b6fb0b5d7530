import Mathlib.Data.List.Basic
import RouteSync.Proofs.Clock.Ticker
import RouteSync.Watch.Syncer

/-! Requests for bulk syncs and the ticks that they stand for. Whatever becomes of a syncer, the
request that waits stands for all ticks since the last one was taken. -/
namespace RouteSync.Watch

namespace Requests

theorem tick_cases (r : Requests) :
    r.running = false ∧ r.tick.1 = r ∨
    r.running = true ∧ r.heard = false ∧ r.tick.1 = { r with running := false } ∨
    r.running = true ∧ r.heard = true ∧ r.tick.1 = { r with waiting := true } := by
  obtain ⟨waiting, heard, running⟩ := r
  cases running with
  | false => exact .inl ⟨rfl, rfl⟩
  | true =>
    cases heard with
    | false => exact .inr (.inl ⟨rfl, rfl, rfl⟩)
    | true => cases waiting <;> exact .inr (.inr ⟨rfl, rfl, rfl⟩)

theorem take_cases (r : Requests) :
    r.heard = true ∧ r.waiting = true ∧ r.take = ({ r with waiting := false }, .request) ∨
    ¬ (r.heard = true ∧ r.waiting = true) ∧
      r.take = (r, if r.heard && r.running then .empty else .closed) := by
  obtain ⟨waiting, heard, running⟩ := r
  cases heard with
  | false => exact .inr ⟨by simp, rfl⟩
  | true =>
    cases waiting with
    | true => exact .inl ⟨rfl, rfl, rfl⟩
    | false => exact .inr ⟨by simp, rfl⟩

theorem take_eq_request_iff (r : Requests) :
    r.take.2 = .request ↔ r.heard = true ∧ r.waiting = true := by
  obtain ⟨hheard, hwaiting, htake⟩ | ⟨hnone, htake⟩ := r.take_cases
  · simp [htake, hheard, hwaiting]
  · simp only [htake, hnone, iff_false]
    split <;> nofun

end Requests

open Clock

/-- What is known of the past of a syncer. -/
inductive Note where
  /-- A tick that came before the syncer stopped, and whether it made a request. -/
  | tick (time : Nat) (made : Bool)
  | taken (answer : Taken)
  | unheard
  deriving DecidableEq

namespace Note

def isMade : Note → Bool
  | .tick _ made => made
  | _ => false

def answer? : Note → Option Taken
  | .taken answer => some answer
  | _ => none

/-- How many requests were made. -/
def made (past : List Note) : Nat := past.countP isMade

/-- How many requests were taken. -/
def takes (past : List Note) : Nat := past.count (.taken .request)

/-- A tick came, and no request was taken since. -/
def Owed (past : List Note) : Prop :=
  ∃ before time made after, past = before ++ .tick time made :: after ∧ .taken .request ∉ after

variable {past : List Note}

theorem owed_concat_iff {x : Note} :
    Owed (past ++ [x]) ↔ (∃ time made, x = .tick time made) ∨ x ≠ .taken .request ∧ Owed past := by
  constructor
  · rintro ⟨before, time, made, after, heq, hnone⟩
    obtain rfl | ⟨after, y, rfl⟩ := List.eq_nil_or_concat' after
    · exact .inl ⟨time, made, (List.append_singleton_inj.1 heq).2⟩
    · rw [← List.cons_append, ← List.append_assoc] at heq
      obtain ⟨rfl, rfl⟩ := List.append_singleton_inj.1 heq
      rw [List.mem_append, not_or] at hnone
      exact .inr ⟨fun hx => hnone.2 (by simp [hx]), before, time, made, after, rfl, hnone.1⟩
  · rintro (⟨time, made, rfl⟩ | ⟨hx, before, time, made, after, rfl, hnone⟩)
    · exact ⟨past, time, made, [], rfl, List.not_mem_nil⟩
    · exact ⟨before, time, made, after ++ [x], by simp, by simp [hnone, Ne.symm hx]⟩

@[simp] theorem made_concat (past : List Note) (x : Note) :
    made (past ++ [x]) = made past + x.isMade.toNat := by
  cases h : x.isMade <;> simp [made, h]

@[simp] theorem takes_concat (past : List Note) (x : Note) :
    takes (past ++ [x]) = takes past + if x = .taken .request then 1 else 0 := by
  simp [takes, List.count_singleton]

end Note

open Note

/-- What a tick adds to the past. -/
def noted (now : Nat) (r : Requests) : List Note :=
  if r.running then [.tick now (!r.waiting && r.tick.1.waiting)] else []

/-- What the past says of the requests: one waits if a tick is owed one and somebody takes requests,
and of those that were made one at most was not taken. -/
structure Accounts (r : Requests) (past : List Note) : Prop where
  heard : r.heard = true ↔ .unheard ∉ past
  waiting : r.waiting = true ↔ r.heard = true ∧ Owed past
  balance : r.heard = true → made past = takes past + r.waiting.toNat
  takes_le : takes past ≤ made past
  made_le : made past ≤ takes past + 1

namespace Accounts

variable {r : Requests} {past : List Note}

/-- A tick is owed the request that waits already, or else the one that it makes. -/
theorem tick (h : Accounts r past) (now : Nat) : Accounts r.tick.1 (past ++ noted now r) := by
  obtain ⟨hrunning, hafter⟩ | ⟨hrunning, hheard, hafter⟩ | ⟨hrunning, hheard, hafter⟩ :=
    r.tick_cases
  · have hnone : noted now r = [] := by simp [noted, hrunning]
    rw [hafter, hnone, List.append_nil]
    exact h
  · have hwaiting : r.waiting = false := by simpa [hheard] using h.waiting
    have hnoted : noted now r = [.tick now false] := by simp [noted, hrunning, hafter, hwaiting]
    rw [hafter, hnoted]
    exact {
      heard := by simpa using h.heard
      waiting := by simp [hwaiting, hheard]
      balance := by simp [hheard]
      takes_le := by simpa [isMade] using h.takes_le
      made_le := by simpa [isMade] using h.made_le }
  · have hnoted : noted now r = [.tick now !r.waiting] := by simp [noted, hrunning, hafter]
    rw [hafter, hnoted]
    -- a request waits by now, the one from before or a new one
    have hbalance : made (past ++ [.tick now !r.waiting]) =
        takes (past ++ [.tick now !r.waiting]) + 1 := by
      have hbefore := h.balance hheard
      cases hwaiting : r.waiting <;> simp [isMade, hbefore, hwaiting]
    exact {
      heard := by simpa using h.heard
      waiting := by simp [hheard, owed_concat_iff]
      balance := fun _ => hbalance
      takes_le := Nat.le.intro hbalance.symm
      made_le := Nat.le_of_eq hbalance }

/-- A take that finds no request leaves everything as it is. -/
theorem missed {answer : Taken} (h : Accounts r past) (hne : answer ≠ .request) :
    Accounts r (past ++ [.taken answer]) where
  heard := by simpa using h.heard
  waiting := by simpa [owed_concat_iff, hne] using h.waiting
  balance := by simpa [isMade, hne] using h.balance
  takes_le := by simpa [isMade, hne] using h.takes_le
  made_le := by simpa [isMade, hne] using h.made_le

theorem take (h : Accounts r past) : Accounts r.take.1 (past ++ [.taken r.take.2]) := by
  obtain ⟨hheard, hwaiting, htake⟩ | ⟨-, htake⟩ := r.take_cases
  · have hbalance : made past = takes past + 1 := by simpa [hwaiting] using h.balance hheard
    rw [htake]
    exact {
      heard := by simpa using h.heard
      waiting := by simp [owed_concat_iff]
      balance := by simp [isMade, hbalance]
      takes_le := by simp [isMade, hbalance]
      made_le := by simp [isMade, hbalance] }
  · rw [htake]
    exact h.missed (by split <;> nofun)

theorem unheard (h : Accounts r past) : Accounts r.unheard (past ++ [.unheard]) := by
  constructor <;> simp [Requests.unheard, isMade, h.takes_le, h.made_le]

theorem stop (h : Accounts r past) : Accounts r.stop.1 past := by
  unfold Requests.stop
  split
  · exact ⟨h.heard, h.waiting, h.balance, h.takes_le, h.made_le⟩
  · exact h

end Accounts

namespace Syncer

/-- A tick, and what is noted of it. -/
def noteTick (now : Nat) (x : Syncer × List Note) : Syncer × List Note :=
  (fire now x.1, x.2 ++ noted now x.1.requests)

/-- What is noted when every tick up to a time is made. -/
def ticked (s : Syncer) (target : Nat) : List Note :=
  (s.ticker.runUntil (now ∘ Prod.fst) noteTick target (s, [])).2.2

/-- One thing that is done with a syncer. -/
inductive Step where
  | wait (time : Nat)
  | jump (time : Nat)
  | take
  /-- Whoever takes requests goes away. -/
  | unheard
  | stop
  deriving DecidableEq

namespace Step

def after (s : Syncer) : Step → Syncer
  | .wait time => s.wait time
  | .jump time => s.jump time
  | .take => s.take.2
  | .unheard => s.unheard
  | .stop => s.stop

def notes (s : Syncer) : Step → List Note
  | .wait time => s.ticked (s.now + time)
  | .jump time => ticked { s with now := s.now + time } (s.now + time)
  | .take => [.taken s.take.1]
  | .unheard => [.unheard]
  | .stop => []

end Step

/-- The syncer after some steps. -/
def after (s : Syncer) (steps : List Step) : Syncer := steps.foldl Step.after s

/-- What is noted in some steps. -/
def notes (s : Syncer) : List Step → List Note
  | [] => []
  | step :: steps => step.notes s ++ notes (step.after s) steps

variable {s : Syncer} {past : List Note} {target : Nat}

/-- What every tick keeps is there after all ticks up to a time. -/
theorem tickTo_keeps {P : Requests → List Note → Prop}
    (hP : ∀ r notes now, P r notes → P r.tick.1 (notes ++ noted now r)) (s : Syncer)
    (h : P s.requests []) (target : Nat) : P (s.tickTo target).requests (s.ticked target) := by
  have hfire : ∀ now (x : Syncer × List Note), (noteTick now x).1 = fire now x.1 :=
    fun _ _ => rfl
  have hmap := Ticker.runUntil_map now Prod.fst hfire target s.ticker (s, [])
  obtain ⟨hall, -⟩ := @Ticker.runUntil_keeps _ (now ∘ Prod.fst) noteTick target
    (fun _ x => P x.1.requests x.2) (fun _ x hx _ => hP x.1.requests x.2 _ hx) s.ticker (s, []) h
  simp only [tickTo, hmap]
  exact hall

theorem accounts_tickTo (h : Accounts s.requests past) (target : Nat) :
    Accounts (s.tickTo target).requests (past ++ s.ticked target) := by
  have hnone : Accounts s.requests (past ++ []) := by rwa [List.append_nil]
  refine s.tickTo_keeps (P := fun r notes => Accounts r (past ++ notes)) ?_ hnone target
  intro r notes now hr
  rw [← List.append_assoc]
  exact hr.tick now

theorem accounts_step (h : Accounts s.requests past) (step : Step) :
    Accounts (step.after s).requests (past ++ step.notes s) := by
  cases step with
  | wait time => exact accounts_tickTo h _
  | jump time => exact accounts_tickTo (s := { s with now := s.now + time }) h _
  | take => exact h.take
  | unheard => exact h.unheard
  | stop =>
    rw [Step.notes, List.append_nil]
    exact h.stop

theorem accounts_after (h : Accounts s.requests past) (steps : List Step) :
    Accounts (s.after steps).requests (past ++ s.notes steps) := by
  induction steps generalizing s past with
  | nil => simpa [notes, after] using h
  | cons step steps ih =>
    rw [notes, ← List.append_assoc]
    exact ih (accounts_step h step)

section Stopped

/-- The answers to takes when no more requests are made: the one that waits, if it does, and from
then on that there are none. -/
def remaining (r : Requests) (takes : Nat) : List Taken :=
  ((if r.waiting then [Taken.request] else []) ++ List.replicate takes Taken.closed).take takes

theorem remaining_succ {r : Requests} (hstopped : r.running = false)
    (hheard : r.waiting = true → r.heard = true) (takes : Nat) :
    remaining r (takes + 1) = r.take.2 :: remaining r.take.1 takes := by
  obtain ⟨-, hwaiting, htake⟩ | ⟨hnone, htake⟩ := r.take_cases
  · simp [htake, remaining, hwaiting, List.take_replicate]
  · have hwaiting : r.waiting = false :=
      Bool.eq_false_iff.2 fun hw => hnone ⟨hheard hw, hw⟩
    simp [htake, remaining, hwaiting, hstopped, List.replicate_succ]

theorem take_of_stopped {r : Requests} (hstopped : r.running = false) :
    r.take.1.running = false ∧ (r.take.1.waiting = true → r.waiting = true) ∧
      r.take.1.heard = r.heard := by
  obtain ⟨-, -, htake⟩ | ⟨-, htake⟩ := r.take_cases <;> simp [htake, hstopped]

theorem tickTo_of_stopped (h : s.requests.running = false) (target : Nat) :
    (s.tickTo target).requests = s.requests ∧ s.ticked target = [] := by
  refine s.tickTo_keeps (P := fun r notes => r = s.requests ∧ notes = []) ?_ ⟨rfl, rfl⟩ target
  rintro r notes now ⟨rfl, rfl⟩
  simp [Requests.tick, noted, h]

/-- No step brings a request once the syncer has stopped, and only a take does anything then. -/
theorem step_of_stopped (h : s.requests.running = false) (step : Step) :
    (step.after s).requests.running = false ∧ made (step.notes s) = 0 ∧
      (step ≠ .take → step ≠ .unheard →
        (step.after s).requests = s.requests ∧ (step.notes s).filterMap answer? = []) := by
  have hquiet {r : Requests} {notes : List Note} (hsame : r = s.requests) (hnone : notes = []) :
      r.running = false ∧ made notes = 0 ∧
        (step ≠ .take → step ≠ .unheard → r = s.requests ∧ notes.filterMap answer? = []) := by
    rw [hsame, hnone]
    exact ⟨h, rfl, fun _ _ => ⟨rfl, rfl⟩⟩
  cases step with
  | wait time =>
    obtain ⟨hsame, hnone⟩ := tickTo_of_stopped h (s.now + time)
    exact hquiet hsame hnone
  | jump time =>
    obtain ⟨hsame, hnone⟩ :=
      tickTo_of_stopped (s := { s with now := s.now + time }) h (s.now + time)
    exact hquiet hsame hnone
  | take => exact ⟨(take_of_stopped h).1, rfl, fun hne => absurd rfl hne⟩
  | unheard => exact ⟨h, rfl, fun _ hne => absurd rfl hne⟩
  | stop =>
    have hsame : s.stop.requests = s.requests := by simp [stop, put, Requests.stop, h]
    exact hquiet hsame rfl

theorem after_of_stopped (h : s.requests.running = false) (steps : List Step) :
    (s.after steps).requests.running = false ∧ made (s.notes steps) = 0 := by
  induction steps generalizing s with
  | nil => exact ⟨h, rfl⟩
  | cons step steps ih =>
    obtain ⟨hstep, hnone, -⟩ := step_of_stopped h step
    obtain ⟨hrest, hrestNone⟩ := ih hstep
    refine ⟨hrest, ?_⟩
    rw [notes, made, List.countP_append]
    exact Nat.add_eq_zero_iff.2 ⟨hnone, hrestNone⟩

theorem answers_of_stopped (h : s.requests.running = false)
    (hheard : s.requests.waiting = true → s.requests.heard = true) {steps : List Step}
    (hsteps : .unheard ∉ steps) :
    (s.notes steps).filterMap answer? = remaining s.requests (steps.count .take) := by
  induction steps generalizing s with
  | nil => simp [notes, remaining]
  | cons step steps ih =>
    obtain ⟨hne, hlater⟩ := not_or.1 (mt List.mem_cons.2 hsteps)
    obtain ⟨hstep, -, hidle⟩ := step_of_stopped h step
    rw [notes, List.filterMap_append]
    by_cases htake : step = .take
    · subst htake
      obtain ⟨-, hwaiting, hsame⟩ := take_of_stopped h
      have hrest := ih hstep (fun hw => hsame.trans (hheard (hwaiting hw))) hlater
      rw [List.count_cons_self, remaining_succ h hheard, hrest]
      rfl
    · obtain ⟨hsame, hnone⟩ := hidle htake (Ne.symm hne)
      rw [hnone, ih hstep (hsame ▸ hheard) hlater, hsame, List.count_cons_of_ne htake]
      rfl

end Stopped

theorem running_of_stop {steps : List Step} (h : .stop ∈ steps) (s : Syncer) :
    (s.after steps).requests.running = false := by
  obtain ⟨before, later, rfl⟩ := List.append_of_mem h
  rw [after, List.foldl_append]
  refine (after_of_stopped ?_ later).1
  simp only [Step.after, stop, put, Requests.stop]
  cases hrunning : (before.foldl Step.after s).requests.running <;> simp [hrunning]

/-- A syncer before its first tick. -/
def idle (interval : Nat) (h : 0 < interval) : Syncer where
  ticker := ⟨interval, 0, h⟩
  log := [Requests.started interval]

theorem ticked_idle {interval : Nat} (h : 0 < interval) :
    (idle interval h).ticked 0 = [.tick 0 true] := by
  have hdue : ((idle interval h).ticker.tick 0).due = interval := by simp [Ticker.tick, idle]
  have hfirst : (idle interval h).ticker.next (now ∘ Prod.fst)
      (idle interval h, ([] : List Note)) = 0 := rfl
  rw [ticked, Ticker.runUntil_of_le (Nat.le_of_eq hfirst), hfirst, Ticker.runUntil_of_lt]
  · rfl
  · rw [Ticker.next, hdue]
    exact Nat.lt_of_lt_of_le h (Nat.le_max_left _ _)

/-- A take finds a request if and only if a tick came since the last one was taken, the tick at the
start among them, and never is more than one request made ahead of those taken. A syncer that has
stopped makes none, and takes find the one that waits, once, and nothing after it. -/
theorem takes_follow_ticks {interval : Nat} (h : 0 < interval) (steps : List Step) :
    let s := (start interval h).after steps
    let past := .tick 0 true :: (start interval h).notes steps
    past = (idle interval h).notes (.jump 0 :: steps) ∧
    (takes past ≤ made past ∧ made past ≤ takes past + 1) ∧
    (s.take.1 = .request ↔ .unheard ∉ past ∧
      ∃ before time made after, past = before ++ .tick time made :: after ∧
        .taken .request ∉ after) ∧
    (.stop ∈ steps → s.requests.running = false) ∧
    (s.requests.running = false → ∀ later : List Step,
      made (s.notes later) = 0 ∧
      (.unheard ∉ later →
        (s.notes later).filterMap answer? = remaining s.requests (later.count .take))) := by
  intro s past
  have hpast : past = (idle interval h).notes (.jump 0 :: steps) :=
    congrArg (· ++ (start interval h).notes steps) (ticked_idle h).symm
  have hidle : Accounts (idle interval h).requests [] := by
    constructor <;> simp [idle, Owed, made, takes]
  have hs : Accounts s.requests past := by
    have hall := accounts_after hidle (.jump 0 :: steps)
    rwa [List.nil_append, ← hpast] at hall
  refine ⟨hpast, ⟨hs.takes_le, hs.made_le⟩, ?_, fun hstop => running_of_stop hstop _,
    fun hstopped later => ⟨(after_of_stopped hstopped later).2, fun hlater => ?_⟩⟩
  · rw [← hs.heard]
    exact s.requests.take_eq_request_iff.trans (and_congr_right fun hheard => by
      simp [hs.waiting, hheard, Owed])
  · exact answers_of_stopped hstopped (fun hw => (hs.waiting.1 hw).1) hlater

/-- Three ticks, one of them late, make one request. It is still there after the stop. -/
theorem one_request_for_three_ticks :
    let steps : List Step := [.take, .jump 3500, .wait 1000, .wait 1000]
    let s := (start 1000 (by decide)).after steps
    let past := .tick 0 true :: (start 1000 (by decide)).notes steps
    past = [.tick 0 true, .taken .request, .tick 3500 true, .tick 4500 false, .tick 5500 false] ∧
      s.take.1 = .request ∧ takes past = 1 ∧ made past ≤ takes past + 1 ∧
      (s.stop.notes [.wait 1000, .take, .jump 1000, .take, .take]).filterMap answer? =
        [.request, .closed, .closed] := by
  intro steps s past
  have hnotes : past =
      [.tick 0 true, .taken .request, .tick 3500 true, .tick 4500 false, .tick 5500 false] := by
    decide +kernel
  obtain ⟨-, ⟨-, hmade⟩, htake, -, -⟩ := takes_follow_ticks (show 0 < 1000 by decide) steps
  obtain ⟨-, -, -, hstop, hstopped⟩ :=
    takes_follow_ticks (show 0 < 1000 by decide) (steps ++ [.stop])
  have hanswers := (hstopped (hstop (by decide)) [.wait 1000, .take, .jump 1000, .take, .take]).2
    (by decide)
  refine ⟨hnotes, htake.2 ⟨?_, ?_⟩, ?_, hmade, ?_⟩
  · have hheard : .unheard ∉ past := hnotes ▸ by decide
    exact hheard
  · exact ⟨[.tick 0 true, .taken .request], 3500, true, [.tick 4500 false, .tick 5500 false],
      hnotes, by decide⟩
  · rw [hnotes]
    rfl
  · have hwaiting : remaining s.stop.requests 3 = [.request, .closed, .closed] := by decide +kernel
    exact hanswers.trans hwaiting

end Syncer

end RouteSync.Watch
