import RouteSync.Proofs.Table.Follow
import RouteSync.Proofs.Watch.Run

/-! Events on their way from the streams to the table. The order in which they are read is the order
in which they are put into effect, and until the signal none is left behind. -/
namespace RouteSync.Watch

open Catalogue

/-- The event that the worker holds in its hands. -/
def Worker.inHand : Worker → List Event
  | .handing e => [e]
  | _ => []

/-- The event that the main loop is at. -/
def Loop.inHand : Loop → List Event
  | .handling e => [e]
  | _ => []

/-- The moves that wait for nothing from outside, and for no time to pass. -/
def Move.isInternal : Move → Bool
  | .begin | .hand | .heed | .receive | .handle _ | .leave | .release | .stop => true
  | .sync _ (.table _) => true
  | _ => false

namespace Watcher

/-- An event that was read from a stream. -/
def Turn.read? (t : Turn) : Option Event :=
  match t.move with
  | .next (.ok e) => some e
  | _ => none

/-- An event that was given to the reconciler. -/
def Turn.given? (t : Turn) : Option Event :=
  match t.move with
  | .receive => t.before.channel.head?
  | _ => none

/-- An event that the reconciler is through with. -/
def Turn.handled? (t : Turn) : Option Event :=
  match t.move, t.before.loop with
  | .handle _, .handling e => some e
  | _, _ => none

def read (turns : List Turn) : List Event := turns.filterMap Turn.read?
def given (turns : List Turn) : List Event := turns.filterMap Turn.given?
def handled (turns : List Turn) : List Event := turns.filterMap Turn.handled?

/-- No part of the watcher can go on by itself. -/
def AtRest (w : Watcher) : Prop := ∀ now move, move.isInternal = true → w.step now move = none

variable {w : Watcher} {now : Nat} {move : Move} {turns : List Turn} {rd gv hd : List Event}

/-- Events keep their order on the way. None is missing from it as long as the worker goes on and
the channel is there; a worker that gave up reads no more, and a channel that is gone gives no
more. -/
structure InOrder (w : Watcher) (rd gv hd : List Event) : Prop where
  handled : hd ++ w.loop.inHand = gv
  given : gv ++ w.channel <+: rd
  all : w.worker.goesOn = true → w.loop.isOpen = true →
    gv ++ w.channel ++ w.worker.inHand = rd
  gone : w.loop.isOpen = false → w.channel = []
  room : w.channel.length ≤ capacity

namespace InOrder

theorem start : InOrder {} [] [] [] where
  handled := rfl
  given := List.prefix_refl _
  all _ _ := rfl
  gone := nofun
  room := Nat.zero_le _

theorem reads (h : w.InOrder rd gv hd) (hworker : w.worker = .streaming) (e : Event) :
    { w with worker := .handing e }.InOrder (rd ++ [e]) gv hd := by
  refine ⟨h.handled, h.given.trans (List.prefix_append _ _), fun _ hopen => ?_, h.gone, h.room⟩
  have hall : gv ++ w.channel ++ w.worker.inHand = rd := h.all (by rw [hworker]; rfl) hopen
  rw [hworker, show Worker.streaming.inHand = [] from rfl, List.append_nil] at hall
  rw [← hall]
  rfl

/-- A worker with empty hands may go on, and a worker may give up. -/
theorem withWorker (h : w.InOrder rd gv hd) {worker : Worker}
    (hkept : worker.goesOn = true →
      w.worker.goesOn = true ∧ w.worker.inHand = [] ∧ worker.inHand = []) :
    { w with worker }.InOrder rd gv hd := by
  refine ⟨h.handled, h.given, fun hgoes hopen => ?_, h.gone, h.room⟩
  obtain ⟨hgoes', hbefore, hafter⟩ := hkept hgoes
  have hall := h.all hgoes' hopen
  rw [hbefore] at hall
  rw [hafter]
  exact hall

theorem work (h : w.InOrder rd gv hd) {step : WorkerStep} (hw : w.Works now move step) :
    (w.work step).after.InOrder (rd ++ (Turn.read? ⟨w, move, (w.work step).acts⟩).toList) gv
      hd := by
  have hnone : ∀ {worker : Worker}, (worker.goesOn = true →
      w.worker.goesOn = true ∧ w.worker.inHand = [] ∧ worker.inHand = []) →
      { w with worker }.InOrder (rd ++ []) gv hd := by
    intro worker hkept
    rw [List.append_nil]
    exact h.withWorker hkept
  cases hw with
  | begin hworker =>
    refine hnone fun _ => ?_
    rw [hworker]
    unfold Worker.begin
    split <;> exact ⟨rfl, rfl, rfl⟩
  | token hworker answer =>
    refine hnone fun _ => ?_
    rw [hworker]
    cases answer <;> exact ⟨rfl, rfl, rfl⟩
  | subscribed hworker failure =>
    refine hnone fun _ => ?_
    rw [hworker]
    cases failure <;> exact ⟨rfl, rfl, rfl⟩
  | next hworker answer =>
    cases answer with
    | ok e => exact h.reads hworker e
    | error e =>
      refine hnone fun _ => ?_
      rw [hworker]
      exact ⟨rfl, rfl, rfl⟩
  | @close last hworker failure =>
    refine hnone fun hgoes => ?_
    rw [hworker]
    cases last with
    | false => exact ⟨rfl, rfl, rfl⟩
    | true => cases hgoes
  | retry hworker =>
    refine hnone fun _ => ?_
    rw [hworker]
    exact ⟨rfl, rfl, rfl⟩
  | @heed step _ hheed =>
    -- an event that the worker holds is lost here, and the worker with it
    refine hnone fun hgoes => ?_
    cases hworker : w.worker <;> rw [hworker] at hheed <;> cases hheed <;> cases hgoes

theorem hand (h : w.InOrder rd gv hd) {e : Event} (hworker : w.worker = .handing e)
    (hopen : w.loop.isOpen = true) (hroom : w.channel.length < capacity) :
    { w with worker := .streaming, channel := w.channel ++ [e] }.InOrder rd gv hd := by
  have hall : gv ++ (w.channel ++ [e]) = rd := by
    have hall := h.all (by rw [hworker]; rfl) hopen
    rw [hworker, List.append_assoc] at hall
    exact hall
  refine ⟨h.handled, ?_, fun _ _ => ?_, fun hgone => ?_, ?_⟩
  · exact hall ▸ List.prefix_refl _
  · exact (List.append_nil _).trans hall
  · rw [hopen] at hgone
    cases hgone
  · rw [List.length_append]
    exact hroom

theorem receive (h : w.InOrder rd gv hd) {e : Event} {channel : List Event}
    (hloop : w.loop = .running) (hchannel : w.channel = e :: channel) :
    { w with loop := .handling e, channel }.InOrder rd (gv ++ [e]) hd := by
  obtain ⟨hhandled, hgiven, hall, -, hroom⟩ := h
  have hmoved : gv ++ w.channel = gv ++ [e] ++ channel := by rw [hchannel, List.append_cons]
  rw [hloop, show Loop.running.inHand = [] from rfl, List.append_nil] at hhandled
  rw [hmoved] at hgiven hall
  refine ⟨by rw [hhandled]; rfl, hgiven, fun hgoes _ => hall hgoes (by rw [hloop]; rfl), nofun, ?_⟩
  rw [hchannel] at hroom
  exact Nat.le_of_succ_le hroom

theorem handle (h : w.InOrder rd gv hd) {e : Event} (hloop : w.loop = .handling e)
    (r : Reconciler) : { w with loop := .running, reconciler := r }.InOrder rd gv (hd ++ [e]) := by
  have hhandled := h.handled
  rw [hloop] at hhandled
  exact ⟨(List.append_nil _).trans hhandled, h.given,
    fun hgoes _ => h.all hgoes (by rw [hloop]; rfl), nofun, h.room⟩

theorem leave (h : w.InOrder rd gv hd) (hloop : w.loop = .running) :
    { w with loop := .leaving, syncs := [] }.InOrder rd gv hd := by
  have hhandled := h.handled
  rw [hloop] at hhandled
  exact ⟨hhandled, h.given, fun hgoes _ => h.all hgoes (by rw [hloop]; rfl), nofun, h.room⟩

theorem release (h : w.InOrder rd gv hd) (hloop : w.loop = .leaving) :
    { w with loop := .waiting, channel := [] }.InOrder rd gv hd := by
  have hhandled := h.handled
  rw [hloop] at hhandled
  refine ⟨hhandled, ?_, nofun, fun _ => rfl, Nat.zero_le _⟩
  rw [List.append_nil]
  exact (List.prefix_append _ _).trans h.given

theorem stop (h : w.InOrder rd gv hd) (hloop : w.loop = .waiting) :
    { w with loop := .stopped }.InOrder rd gv hd := by
  have hhandled := h.handled
  rw [hloop] at hhandled
  exact ⟨hhandled, h.given, nofun, fun _ => h.gone (by rw [hloop]; rfl), h.room⟩

/-- Only the worker, the channel and the main loop have a part in it. -/
theorem congr (h : w.InOrder rd gv hd) {w' : Watcher} (hworker : w'.worker = w.worker)
    (hloop : w'.loop = w.loop) (hchannel : w'.channel = w.channel) : w'.InOrder rd gv hd := by
  obtain ⟨hhandled, hgiven, hall, hgone, hroom⟩ := h
  constructor <;> simpa only [hworker, hloop, hchannel]

theorem of_idle (h : w.InOrder rd gv hd) {t : Turn} (hread : t.read? = none)
    (hgiven : t.given? = none) (hhandled : t.handled? = none) :
    w.InOrder (rd ++ t.read?.toList) (gv ++ t.given?.toList) (hd ++ t.handled?.toList) := by
  rw [hread, hgiven, hhandled]
  simpa using h

theorem step {next : Step} (h : w.InOrder rd gv hd) (hs : w.step now move = some next)
    {t : Turn} (ht : t = ⟨w, move, next.acts⟩) :
    next.after.InOrder (rd ++ t.read?.toList) (gv ++ t.given?.toList)
      (hd ++ t.handled?.toList) := by
  have heffect := effect_step hs
  subst ht
  cases heffect with
  | @work _ step hw =>
    have hgiven : Turn.given? ⟨w, move, (w.work step).acts⟩ = none := by cases hw <;> rfl
    have hhandled : Turn.handled? ⟨w, move, (w.work step).acts⟩ = none := by cases hw <;> rfl
    rw [hgiven, hhandled]
    simpa using h.work hw
  | hand hworker hopen hroom => exact (h.hand hworker hopen hroom).of_idle rfl rfl rfl
  | @receive e channel hloop hchannel =>
    have hgiven : Turn.given? ⟨w, .receive, []⟩ = some e := by
      simp [Turn.given?, hchannel]
    rw [hgiven]
    simpa [Turn.read?, Turn.handled?] using h.receive hloop hchannel
  | @handle e hloop outcome =>
    have hhandled : ∀ acts, Turn.handled? ⟨w, .handle outcome, acts⟩ = some e := by
      simp [Turn.handled?, hloop]
    rw [hhandled]
    simpa [Turn.read?, Turn.given?] using h.handle hloop _
  | leave hloop => exact (h.leave hloop).of_idle rfl rfl rfl
  | release hloop => exact (h.release hloop).of_idle rfl rfl rfl
  | stop hloop => exact (h.stop hloop).of_idle rfl rfl rfl
  | request | sync | raise | drop =>
    refine of_idle ?_ rfl rfl rfl
    exact h.congr rfl rfl rfl

end InOrder

theorem filterMap_concat {α β : Type} (f : α → Option β) (as : List α) (a : α) :
    (as ++ [a]).filterMap f = as.filterMap f ++ (f a).toList := by
  rw [List.filterMap_append, List.filterMap_cons]
  cases f a <;> rfl

theorem Run.inOrder (h : Run w turns) : w.InOrder (read turns) (given turns) (handled turns) := by
  induction h with
  | start => exact .start
  | step _ hs ih =>
    rw [read, given, handled, filterMap_concat, filterMap_concat, filterMap_concat]
    exact ih.step hs rfl
  | others _ r ih => exact ih.congr rfl rfl rfl

/-- A watcher at rest that goes on has nothing on its way. -/
theorem Orderly.nothing_left (h : w.Orderly) (hquiet : w.signal = .quiet) (hrest : w.AtRest) :
    w.loop = .running ∧ w.channel = [] ∧ w.worker.inHand = [] := by
  have hgoes := h.loop hquiet
  have hloop : w.loop = .running := by
    cases hloop : w.loop with
    | running => rfl
    | handling e =>
      have hnone := hrest 0 (.handle (.ok ())) rfl
      simp [Watcher.step, hloop] at hnone
    | leaving | waiting | stopped =>
      rw [hloop] at hgoes
      cases hgoes
  have hchannel : w.channel = [] := by
    cases hchannel : w.channel with
    | nil => rfl
    | cons e channel =>
      have hnone := hrest 0 .receive rfl
      simp [Watcher.step, hloop, hchannel] at hnone
  refine ⟨hloop, hchannel, ?_⟩
  cases hworker : w.worker with
  | handing e =>
    have hnone := hrest 0 .hand rfl
    simp [Watcher.step, hloop, hchannel, hworker, Loop.isOpen, capacity] at hnone
  | _ => rfl

/-- The reconciler is given the events in the order in which they were read from the streams, and is
through with them in that order. However full the channel gets, none is lost before one that comes
later, and none at all is while nobody gave the signal: at rest the reconciler has had them all. -/
theorem Run.given_in_order (h : Run w turns) :
    given turns <+: read turns ∧ handled turns <+: given turns ∧ w.channel.length ≤ capacity ∧
      (w.signal = .quiet → w.AtRest → given turns = read turns ∧ handled turns = read turns) := by
  obtain ⟨hhandled, hgiven, hall, -, hroom⟩ := h.inOrder
  refine ⟨(List.prefix_append _ _).trans hgiven, ⟨_, hhandled⟩, hroom, fun hquiet hrest => ?_⟩
  obtain ⟨hloop, hchannel, hworker⟩ := h.orderly.nothing_left hquiet hrest
  have heq := hall (h.orderly.worker hquiet) (by rw [hloop]; rfl)
  rw [hchannel, hworker, List.append_nil, List.append_nil] at heq
  rw [hloop, show Loop.running.inHand = [] from rfl, List.append_nil] at hhandled
  exact ⟨heq, hhandled.trans heq⟩

theorem atRest_of_streaming (hworker : w.worker = .streaming) (hloop : w.loop = .running)
    (hchannel : w.channel = []) (hsyncs : w.syncs = []) (hsignal : w.signal = .quiet) :
    w.AtRest := by
  intro now move hinternal
  cases move <;>
    simp_all [Watcher.step, Move.isInternal, ending, Loop.isOpen]

/-- One event comes on a stream that fails, and one on the stream after it. -/
theorem events_of_two_streams_given :
    ∃ (w : Watcher) (turns : List Turn) (first second : Event),
      Run w turns ∧ w.signal = .quiet ∧ w.AtRest ∧ first ≠ second ∧
      read turns = [first, second] ∧ given turns = [first, second] ∧
      handled turns = [first, second] := by
  let e (action : Action) : Event := ⟨action, .bare 1024 "10.0.0.1" 8080 ⟨"a", 1⟩⟩
  have hopened := @Run.step _ _ 0 (.subscribed none) _
    (@Run.step _ _ 0 (.token (.ok "t")) _ (@Run.step _ _ 0 .begin _ .start rfl) rfl) rfl
  have hhanded := @Run.step _ _ 1 .hand _ (@Run.step _ _ 1 (.next (.ok (e .upsert))) _ hopened rfl)
    rfl
  have hfailed := @Run.step _ _ 2 (.close none) _
    (@Run.step _ _ 2 (.next (.error .ended)) _ hhanded rfl) rfl
  have hagain := @Run.step _ _ 2 (.subscribed none) _
    (@Run.step _ _ 2 (.token (.ok "t")) _ (@Run.step _ _ 2 .begin _ hfailed rfl) rfl) rfl
  have hboth := @Run.step _ _ 3 .hand _ (@Run.step _ _ 3 (.next (.ok (e .delete))) _ hagain rfl) rfl
  have hfirst := @Run.step _ _ 4 (.handle (.ok ())) _ (@Run.step _ _ 4 .receive _ hboth rfl) rfl
  have hsecond := @Run.step _ _ 5 (.handle (.ok ())) _ (@Run.step _ _ 5 .receive _ hfirst rfl) rfl
  obtain ⟨-, -, -, hall⟩ := hsecond.given_in_order
  obtain ⟨hgiven, hhandled⟩ := hall rfl (atRest_of_streaming rfl rfl rfl rfl rfl)
  refine ⟨_, _, e .upsert, e .delete, hsecond, rfl, ?_, by decide, ?_⟩
  · exact atRest_of_streaming rfl rfl rfl rfl rfl
  · rw [hgiven, hhandled, and_self, and_self]
    decide +kernel

end Watcher
end RouteSync.Watch
