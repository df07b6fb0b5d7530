import RouteSync.Proofs.Reconcile.Session

/-! Runs of a watcher: what each step does, and the order in which its parts come to an end. -/
namespace RouteSync.Watch

open Catalogue

def Loop.goesOn : Loop → Bool
  | .running | .handling _ => true
  | .leaving | .waiting | .stopped => false

def Worker.goesOn : Worker → Bool
  | .closing true | .stopped => false
  | _ => true

/-- The moves that are the worker's own. -/
def Move.byWorker : Move → Bool
  | .begin | .token _ | .subscribed _ | .next _ | .hand | .close _ | .retry | .heed => true
  | _ => false

namespace Watcher

/-- What the worker does by itself. -/
inductive Works (w : Watcher) (now : Nat) : Move → WorkerStep → Prop
  | begin (h : w.worker = .idle) : Works w now .begin (Worker.begin w.signal)
  | token (h : w.worker = .fetching) (answer : TokenAnswer) :
      Works w now (.token answer) (Worker.fetched now answer)
  | subscribed (h : w.worker = .subscribing) (failure : Option SourceError) :
      Works w now (.subscribed failure) (Worker.subscribed now failure)
  | next (h : w.worker = .streaming) (answer : Except SourceError Event) :
      Works w now (.next answer) (Worker.received answer)
  | close {last : Bool} (h : w.worker = .closing last) (failure : Option SourceError) :
      Works w now (.close failure) (Worker.closed last failure)
  | retry {since : Nat} (h : w.worker = .waiting since) : Works w now .retry ⟨.idle, []⟩
  | heed {step : WorkerStep} (hending : w.ending = true) (h : w.worker.heed? = some step) :
      Works w now .heed step

/-- The ways in which a move changes the watcher. -/
inductive Effect (w : Watcher) (now : Nat) : Move → Step → Prop
  | work {move : Move} {step : WorkerStep} (h : w.Works now move step) :
      Effect w now move (w.work step)
  | hand {e : Event} (h : w.worker = .handing e) (hopen : w.loop.isOpen = true)
      (hroom : w.channel.length < capacity) :
      Effect w now .hand ⟨{ w with worker := .streaming, channel := w.channel ++ [e] }, []⟩
  | receive {e : Event} {channel : List Event} (h : w.loop = .running)
      (hchannel : w.channel = e :: channel) :
      Effect w now .receive ⟨{ w with loop := .handling e, channel }, []⟩
  | handle {e : Event} (h : w.loop = .handling e) (outcome : Outcome) :
      Effect w now (.handle outcome)
        ⟨{ w with loop := .running, reconciler := (w.reconciler.handle e now outcome).after },
          (w.reconciler.handle e now outcome).acts⟩
  | request (h : w.loop = .running) :
      Effect w now .request ⟨{ w with syncs := w.syncs ++ [.fetching] }, []⟩
  | sync {index : Nat} {input : SyncInput} {call : SyncCall} {r : Reconciler} {step : SyncStep}
      (h : w.syncs[index]? = some call)
      (hadvance : call.advance w.reconciler now input = some (r, step)) :
      Effect w now (.sync index input) (w.moveSync index r step)
  | leave (h : w.loop = .running) (hsignal : w.signal ≠ .quiet) :
      Effect w now .leave ⟨{ w with loop := .leaving, syncs := [] }, w.aborting⟩
  | release (h : w.loop = .leaving) :
      Effect w now .release ⟨{ w with loop := .waiting, channel := [] }, []⟩
  | stop (h : w.loop = .waiting) (hworker : w.worker = .stopped) :
      Effect w now .stop ⟨{ w with loop := .stopped }, [.log stoppedRecord]⟩
  | raise (h : w.signal = .quiet) : Effect w now .raise ⟨{ w with signal := .raised }, []⟩
  | drop (h : w.signal = .quiet) : Effect w now .drop ⟨{ w with signal := .dropped }, []⟩

variable {w : Watcher} {now : Nat} {move : Move} {next : Step}

theorem Works.byWorker {step : WorkerStep} (hw : w.Works now move step) :
    move.byWorker = true := by
  cases hw <;> rfl

theorem effect_step (hs : w.step now move = some next) : w.Effect now move next := by
  cases move with
  | begin =>
    obtain ⟨h, ⟨⟩⟩ := Option.ite_none_right_eq_some.1 hs
    exact .work (.begin h)
  | token answer =>
    obtain ⟨h, ⟨⟩⟩ := Option.ite_none_right_eq_some.1 hs
    exact .work (.token h answer)
  | subscribed failure =>
    obtain ⟨h, ⟨⟩⟩ := Option.ite_none_right_eq_some.1 hs
    exact .work (.subscribed h failure)
  | next answer =>
    obtain ⟨h, ⟨⟩⟩ := Option.ite_none_right_eq_some.1 hs
    exact .work (.next h answer)
  | hand =>
    simp only [step] at hs
    split at hs
    · rename_i e h
      obtain ⟨⟨hopen, hroom⟩, ⟨⟩⟩ := Option.ite_none_right_eq_some.1 hs
      exact .hand h hopen hroom
    · cases hs
  | close failure =>
    simp only [step] at hs
    split at hs
    · rename_i last h
      obtain rfl := Option.some.inj hs
      exact .work (.close h failure)
    · cases hs
  | retry =>
    simp only [step] at hs
    split at hs
    · rename_i since h
      obtain rfl := Option.some.inj hs
      exact .work (.retry h)
    · cases hs
  | heed =>
    simp only [step] at hs
    split at hs
    · rename_i hending
      obtain ⟨step, h, rfl⟩ := Option.map_eq_some_iff.1 hs
      exact .work (.heed hending h)
    · cases hs
  | receive =>
    simp only [step] at hs
    split at hs
    · rename_i e channel h hchannel
      obtain rfl := Option.some.inj hs
      exact .receive h hchannel
    · cases hs
  | handle outcome =>
    simp only [step] at hs
    split at hs
    · rename_i e h
      obtain rfl := Option.some.inj hs
      exact .handle h outcome
    · cases hs
  | request =>
    obtain ⟨h, ⟨⟩⟩ := Option.ite_none_right_eq_some.1 hs
    exact .request h
  | sync index input =>
    obtain ⟨call, hcall, hs⟩ := Option.bind_eq_some_iff.1 hs
    rw [syncStep_eq] at hs
    obtain ⟨⟨r, step⟩, hadvance, rfl⟩ := Option.map_eq_some_iff.1 hs
    exact .sync hcall hadvance
  | leave =>
    obtain ⟨⟨h, hsignal⟩, ⟨⟩⟩ := Option.ite_none_right_eq_some.1 hs
    exact .leave h hsignal
  | release =>
    obtain ⟨h, ⟨⟩⟩ := Option.ite_none_right_eq_some.1 hs
    exact .release h
  | stop =>
    obtain ⟨⟨h, hworker⟩, ⟨⟩⟩ := Option.ite_none_right_eq_some.1 hs
    exact .stop h hworker
  | raise =>
    obtain ⟨h, ⟨⟩⟩ := Option.ite_none_right_eq_some.1 hs
    exact .raise h
  | drop =>
    obtain ⟨h, ⟨⟩⟩ := Option.ite_none_right_eq_some.1 hs
    exact .drop h

/-- A step that was taken. -/
structure Turn where
  before : Watcher
  move : Move
  acts : List Act

/-- What a run may come to, and the steps taken in it. -/
inductive Run : Watcher → List Turn → Prop
  | start : Run {} []
  | step {w : Watcher} {turns : List Turn} {now : Nat} {move : Move} {next : Step}
      (h : Run w turns) (hs : w.step now move = some next) :
      Run next.after (turns ++ [⟨w, move, next.acts⟩])
  /-- Others have calls on the same reconciler. -/
  | others {w : Watcher} {turns : List Turn} (h : Run w turns) (r : Reconciler) :
      Run { w with reconciler := r } turns

/-- Nothing ends before the signal, the syncs end with the loop, and the worker before all. -/
structure Orderly (w : Watcher) : Prop where
  loop : w.signal = .quiet → w.loop.goesOn = true
  worker : w.signal = .quiet → w.worker.goesOn = true
  syncs : w.loop.goesOn = false → w.syncs = []
  last : w.loop = .stopped → w.worker = .stopped

namespace Orderly

theorem start : Orderly {} := ⟨fun _ => rfl, fun _ => rfl, fun _ => rfl, fun h => by cases h⟩

theorem not_ending (h : w.Orderly) (hquiet : w.signal = .quiet) : w.ending = false := by
  have hloop := h.loop hquiet
  revert hloop
  unfold ending
  cases w.loop <;> simp [hquiet, Loop.goesOn, Loop.isOpen]

/-- A worker that has stopped does nothing more, and one that gives up has heeded the signal. -/
theorem work (h : w.Orderly) {step : WorkerStep} (hw : w.Works now move step) :
    (w.work step).after.Orderly := by
  have hlast : w.loop ≠ .stopped := by
    intro hstopped
    have hworker := h.last hstopped
    cases hw <;> simp_all [Worker.heed?]
  refine ⟨h.loop, fun hquiet => ?_, h.syncs, fun hstopped => absurd hstopped hlast⟩
  have hgoes := h.worker hquiet
  cases hw with
  | begin hidle =>
    have hquiet' : w.signal = .quiet := hquiet
    simp [Watcher.work, Worker.begin, hquiet', Worker.goesOn]
  | token _ answer => cases answer <;> rfl
  | subscribed _ failure => cases failure <;> rfl
  | next _ answer => cases answer <;> rfl
  | @close last hclosing failure =>
    rw [hclosing] at hgoes
    cases last with
    | false => rfl
    | true => cases hgoes
  | retry => rfl
  | heed hending =>
    rw [h.not_ending hquiet] at hending
    cases hending

theorem step (h : w.Orderly) (hs : w.step now move = some next) : next.after.Orderly := by
  have heffect := effect_step hs
  cases heffect with
  | work hw => exact h.work hw
  | hand hworker hopen =>
    refine ⟨h.loop, fun _ => rfl, h.syncs, fun hstopped => ?_⟩
    rw [show w.loop = .stopped from hstopped] at hopen
    cases hopen
  | receive hloop => exact ⟨fun _ => rfl, h.worker, nofun, nofun⟩
  | handle hloop => exact ⟨fun _ => rfl, h.worker, nofun, nofun⟩
  | request hloop =>
    refine ⟨h.loop, h.worker, fun hend => ?_, h.last⟩
    rw [show w.loop = .running from hloop] at hend
    cases hend
  | sync hcall =>
    have hsyncs : w.syncs ≠ [] := List.ne_nil_of_mem (List.mem_of_getElem? hcall)
    exact ⟨h.loop, h.worker, fun hend => absurd (h.syncs hend) hsyncs, h.last⟩
  | leave hloop hsignal =>
    exact ⟨fun hquiet => absurd hquiet hsignal, h.worker, fun _ => rfl, nofun⟩
  | release hloop =>
    have hend : w.loop.goesOn = false := by rw [hloop]; rfl
    exact ⟨fun hquiet => absurd (h.loop hquiet) (by simp [hend]), h.worker, fun _ => h.syncs hend,
      nofun⟩
  | stop hloop hworker =>
    have hend : w.loop.goesOn = false := by rw [hloop]; rfl
    exact ⟨fun hquiet => absurd (h.loop hquiet) (by simp [hend]), h.worker, fun _ => h.syncs hend,
      fun _ => hworker⟩
  | raise => exact ⟨nofun, nofun, h.syncs, h.last⟩
  | drop => exact ⟨nofun, nofun, h.syncs, h.last⟩

end Orderly

theorem Run.orderly {turns : List Turn} (h : Run w turns) : w.Orderly := by
  induction h with
  | start => exact .start
  | step _ hs ih => exact ih.step hs
  | others _ _ ih => exact ⟨ih.loop, ih.worker, ih.syncs, ih.last⟩

end Watcher
end RouteSync.Watch
