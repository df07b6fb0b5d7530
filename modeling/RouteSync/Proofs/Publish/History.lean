import RouteSync.Proofs.Disk.Replace
import RouteSync.Proofs.Publish.Steps
import RouteSync.Proofs.Text.Utf8

/-! What the live file holds after any history of configurations, loads that fail among them. -/
namespace RouteSync.Publish

/-- The script leaves a file as it is. -/
def Launcher.Spares (launch : Launcher) (path : Disk.Path) : Prop :=
  ∀ script drain d, (launch script drain d).1.read path = d.read path

namespace Publisher

/-- The ways in which a configuration ends. -/
inductive Configures (p : Publisher) (names : Disk.Naming) (launch : Launcher) (s : Snapshot)
    (d : Disk) : Publisher → Disk → Except Fault Unit → Prop
  | noBase {fault : Disk.Fault} (hbase : d.readText p.basePath = .error fault) :
      Configures p names launch s d p d (.error (.base p.basePath))
  | skipped {base : String} (hbase : d.readText p.basePath = .ok base)
      (happlied : p.applied = some (p.text s base)) : Configures p names launch s d p d (.ok ())
  | notWritten {base : String} {why : Disk.ReplaceFault} {fault : Fault}
      (hbase : d.readText p.basePath = .ok base) (happlied : p.applied ≠ some (p.text s base))
      (hwritten : (d.replace names p.livePath (Text.Utf8.bytes (p.text s base))).2 = .error why) :
      Configures p names launch s d p
        (d.replace names p.livePath (Text.Utf8.bytes (p.text s base))).1 (.error fault)
  | notLoaded {base : String} {fault : Fault} (hbase : d.readText p.basePath = .ok base)
      (happlied : p.applied ≠ some (p.text s base))
      (hwritten : (d.replace names p.livePath (Text.Utf8.bytes (p.text s base))).2 = .ok ()) :
      Configures p names launch s d p
        (launch p.scriptPath false
          (d.replace names p.livePath (Text.Utf8.bytes (p.text s base))).1).1 (.error fault)
  | loaded {base : String} (hbase : d.readText p.basePath = .ok base)
      (happlied : p.applied ≠ some (p.text s base))
      (hwritten : (d.replace names p.livePath (Text.Utf8.bytes (p.text s base))).2 = .ok ()) :
      Configures p names launch s d { p with applied := some (p.text s base) }
        (launch p.scriptPath false
          (d.replace names p.livePath (Text.Utf8.bytes (p.text s base))).1).1 (.ok ())

theorem configures (p : Publisher) (names : Disk.Naming) (launch : Launcher) (s : Snapshot)
    (d : Disk) :
    Configures p names launch s d (p.configure names launch s d).after
      (p.configure names launch s d).done.disk (p.configure names launch s d).done.answer := by
  cases hbase : d.readText p.basePath with
  | error why =>
    rw [configure_of_noBase hbase]
    exact .noBase hbase
  | ok base =>
    by_cases happlied : p.applied = some (p.text s base)
    · rw [configure_of_applied hbase happlied]
      exact .skipped hbase happlied
    cases hwritten : (d.replace names p.livePath (Text.Utf8.bytes (p.text s base))).2 with
    | error why =>
      rw [configure_of_notWritten hbase happlied hwritten]
      exact .notWritten hbase happlied hwritten
    | ok _ =>
      obtain ⟨hdisk, hanswer, hafter⟩ := configure_of_written hbase happlied hwritten launch
      rw [hdisk, hanswer, hafter, reload_disk]
      cases (reload launch p.scriptPath false
          (d.replace names p.livePath (Text.Utf8.bytes (p.text s base))).1).answer with
      | error fault => exact .notLoaded hbase happlied hwritten
      | ok _ => exact .loaded hbase happlied hwritten

/-- The text that a configuration puts into the live file. -/
def puts? (p : Publisher) (names : Disk.Naming) (s : Snapshot) (d : Disk) : Option String :=
  match d.readText p.basePath with
  | .error _ => none
  | .ok base =>
    if p.applied = some (p.text s base) then none
    else match (d.replace names p.livePath (Text.Utf8.bytes (p.text s base))).2 with
      | .error _ => none
      | .ok _ => some (p.text s base)

/-- A run of the publisher on a disk that others write to as well, but not to the live file, with
the text that it last put there. A new file that a fault kept is let go of at any time. -/
inductive Run : Publisher → Option String → Disk → Prop
  | start {p : Publisher} (d : Disk) (happlied : p.applied = none) : Run p none d
  | configure {p : Publisher} {last : Option String} {d : Disk} (h : Run p last d)
      (names : Disk.Naming) (launch : Launcher) (hspares : launch.Spares p.livePath)
      (s : Snapshot) :
      Run (p.configure names launch s d).after ((p.puts? names s d).or last)
        (p.configure names launch s d).done.disk
  | drain {p : Publisher} {last : Option String} {d : Disk} (h : Run p last d)
      (launch : Launcher) (hspares : launch.Spares p.livePath) :
      Run p last (p.drain launch d).done.disk
  | outside {p : Publisher} {last : Option String} {d d' : Disk} (h : Run p last d)
      (hlive : d'.read p.livePath = d.read p.livePath) : Run p last d'

/-- What was put into the live file last stands there, and what was applied was put there. -/
structure Faithful (p : Publisher) (last : Option String) (d : Disk) : Prop where
  live : ∀ t, last = some t → d.read p.livePath = .ok (Text.Utf8.bytes t)
  put : p.applied ≠ none → last ≠ none

theorem Faithful.configure {p : Publisher} {last : Option String} {d : Disk}
    (h : Faithful p last d) (names : Disk.Naming) {launch : Launcher}
    (hspares : launch.Spares p.livePath) (s : Snapshot) :
    Faithful (p.configure names launch s d).after ((p.puts? names s d).or last)
      (p.configure names launch s d).done.disk := by
  have hc := p.configures names launch s d
  generalize (p.configure names launch s d).after = p',
    (p.configure names launch s d).done.disk = d',
    (p.configure names launch s d).done.answer = answer at hc ⊢
  cases hc with
  | noBase hbase => simpa [puts?, hbase] using h
  | skipped hbase happlied => simpa [puts?, hbase, happlied] using h
  | notWritten hbase happlied hwritten =>
    have hadds := Disk.adds_of_replace_error hwritten
    simp only [puts?, hbase, happlied, hwritten, if_false, Option.none_or]
    exact ⟨fun t ht => hadds.read_eq_ok (h.live t ht), h.put⟩
  | notLoaded hbase happlied hwritten =>
    have hread := (Disk.swapped_replace hwritten).read
    simp only [puts?, hbase, happlied, hwritten, if_false, Option.some_or]
    exact ⟨fun t ht => by rw [hspares, hread, Option.some.inj ht], fun _ => by simp⟩
  | loaded hbase happlied hwritten =>
    have hread := (Disk.swapped_replace hwritten).read
    simp only [puts?, hbase, happlied, hwritten, if_false, Option.some_or]
    exact ⟨fun t ht => by rw [hspares, hread, Option.some.inj ht], fun _ => by simp⟩

theorem Run.faithful {p : Publisher} {last : Option String} {d : Disk} (h : Run p last d) :
    Faithful p last d := by
  induction h with
  | start _ happlied => exact ⟨nofun, fun hne => absurd happlied hne⟩
  | configure _ names launch hspares s ih => exact ih.configure names hspares s
  | drain _ launch hspares ih =>
    refine ⟨fun t ht => ?_, ih.put⟩
    rw [← ih.live t ht, Publisher.drain, reload_disk, hspares]
  | outside _ hlive ih => exact ⟨fun t ht => hlive.trans (ih.live t ht), ih.put⟩

/-- A configuration that succeeds leaves the base and the routes in the live file, unless it was
skipped over another text that was put there since. -/
theorem Run.configure_ok {p : Publisher} {last : Option String} {d : Disk} (h : Run p last d)
    {names : Disk.Naming} {launch : Launcher} (hspares : launch.Spares p.livePath) {s : Snapshot}
    (hok : (p.configure names launch s d).done.answer = .ok ()) :
    ∃ base, d.readText p.basePath = .ok base ∧
      ((p.configure names launch s d).done.disk.read p.livePath =
          .ok (Text.Utf8.bytes (p.text s base)) ↔
        (p.applied = some (p.text s base) → last = some (p.text s base))) := by
  have hc := p.configures names launch s d
  generalize (p.configure names launch s d).after = p',
    (p.configure names launch s d).done.disk = d',
    (p.configure names launch s d).done.answer = answer at hc hok ⊢
  cases hc with
  | noBase => cases hok
  | skipped hbase happlied =>
    refine ⟨_, hbase, ?_⟩
    obtain ⟨t, rfl⟩ := Option.ne_none_iff_exists'.1 (h.faithful.put (by simp [happlied]))
    rw [h.faithful.live t rfl]
    simp only [happlied, forall_const, Except.ok.injEq, Option.some.injEq]
    exact Text.Utf8.bytes_inj
  | notWritten => cases hok
  | notLoaded => cases hok
  | loaded hbase happlied hwritten =>
    refine ⟨_, hbase, iff_of_true ?_ fun happlied' => absurd happlied' happlied⟩
    rw [hspares, (Disk.swapped_replace hwritten).read]

/-- The text of a route is written over the one that is applied. -/
theorem second_configuration_is_written :
    ∃ (p : Publisher) (first base : String) (d : Disk) (names : Disk.Naming) (launch : Launcher)
      (s : Snapshot), Run p (some first) d ∧ launch.Spares p.livePath ∧ p.applied = some first ∧
      s.entries.length = 1 ∧ (p.configure names launch s d).done.answer = .ok () ∧
      d.readText p.basePath = .ok base ∧ first ≠ p.text s base ∧
      (p.configure names launch s d).done.disk.read p.livePath =
        .ok (Text.Utf8.bytes (p.text s base)) := by
  let start : Publisher := ⟨{}, "base", "live", "reload", 0, none⟩
  let loads : Launcher := fun _ _ d => (d, some {})
  let s : Snapshot := RouteMap.empty.insert ⟨1024, ""⟩ [.plain "10.0.0.1" 8080]
  let d : Disk := { entries := [(["base"], .file ⟨[103, 10], 0o644⟩)] }
  let earlier := start.configure .longest loads .empty d
  have hrun : Run earlier.after (some "g\n") earlier.done.disk := by
    have hstart : Run start none d := .start _ rfl
    have hstep := hstart.configure .longest loads (fun _ _ _ => rfl) .empty
    have hputs : start.puts? .longest .empty d = some "g\n" := by decide +kernel
    rwa [hputs] at hstep
  have happlied : earlier.after.applied = some "g\n" := by decide +kernel
  have hok : (earlier.after.configure .longest loads s earlier.done.disk).done.answer = .ok () := by
    decide +kernel
  have hread : earlier.done.disk.readText earlier.after.basePath = .ok "g\n" := by decide +kernel
  have hother : "g\n" ≠ earlier.after.text s "g\n" := by decide +kernel
  have hroute : s.entries.length = 1 := by decide +kernel
  clear_value earlier s
  have hspares : loads.Spares earlier.after.livePath := fun _ _ _ => rfl
  obtain ⟨base, hbase, hlive⟩ := hrun.configure_ok hspares hok
  have hsame : base = "g\n" := Except.ok.inj (hbase.symm.trans hread)
  rw [hsame] at hlive
  refine ⟨earlier.after, "g\n", "g\n", earlier.done.disk, .longest, loads, s, hrun,
    hspares, happlied, hroute, hok, hread, hother, hlive.2 fun heq => ?_⟩
  exact absurd (Option.some.inj (happlied.symm.trans heq)) hother

/-- One text is applied, another is put in its place and fails to load, and the first one counts as
applied still. -/
theorem skipped_over_failed_load :
    ∃ p last d names launch s, Run p last d ∧ Launcher.Spares launch p.livePath ∧
      (p.configure names launch s d).done.answer = .ok () ∧
      ∃ base, d.readText p.basePath = .ok base ∧
        (p.configure names launch s d).done.disk.read p.livePath ≠
          .ok (Text.Utf8.bytes (p.text s base)) := by
  let loads : Launcher := fun _ _ d => (d, some {})
  let fails : Launcher := fun _ _ d => (d, some ⟨[], [], .exit 1⟩)
  let other : Snapshot := RouteMap.empty.insert ⟨1024, ""⟩ [.plain "10.0.0.1" 8080]
  have hstart : Run ⟨{}, "base", "live", "reload", 0, none⟩ none
      { entries := [(["base"], .file ⟨[103, 10], 0o644⟩)] } := .start _ rfl
  have hfirst := hstart.configure .longest loads (fun _ _ _ => rfl) .empty
  have hsecond := hfirst.configure .longest fails (fun _ _ _ => rfl) other
  refine ⟨_, _, _, .longest, loads, .empty, hsecond, fun _ _ _ => rfl, ?_, "g\n", ?_, ?_⟩
  · decide +kernel
  · decide +kernel
  · decide +kernel

end Publisher
end RouteSync.Publish
