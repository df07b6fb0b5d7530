import RouteSync.Disk.Replace
import RouteSync.Proofs.Disk.Locate

/-! Replacing a file puts exactly that file in place, or leaves the disk as it was but for a file
that the fault keeps. -/
namespace RouteSync.Disk

/-- The other disk holds the same. -/
structure Same (d d' : Disk) : Prop where
  here : d'.here = d.here
  get? : ∀ place, d'.get? place = d.get? place

section

variable {d d' : Disk} {place : Location} {path : Path}

theorem Same.walk (h : d.Same d') (place : Location) (parts : List String) :
    d'.walk place parts = d.walk place parts := by
  induction parts generalizing place with
  | nil => rfl
  | cons part parts ih => simp only [Disk.walk, h.get?, ih]

theorem Same.locate (h : d.Same d') (path : Path) : d'.locate path = d.locate path := by
  simp only [Disk.locate, h.walk, h.here]

theorem Same.read (h : d.Same d') (path : Path) : d'.read path = d.read path := by
  simp only [Disk.read, Disk.file, Disk.find, h.locate, h.get?]

/-- Only what was not there is taken away. -/
theorem same_remove (hhere : d'.here = d.here) (hnone : d.get? place = none)
    (h : ∀ other, other ≠ place → d'.get? other = d.get? other) : d.Same (d'.remove place) := by
  have hbelow : place ≠ [] := fun htop => by
    rw [htop] at hnone
    cases hnone
  refine ⟨hhere, fun other => ?_⟩
  by_cases heq : other = place
  · rw [heq, hnone, get?_remove_self hbelow]
  · rw [get?_remove_of_ne heq, h other heq]

theorem read_eq_ok_iff {bytes : List UInt8} :
    d.read path = .ok bytes ↔ ∃ place file, d.locate path = .ok place ∧
      d.get? place = some (.file file) ∧ file.bytes = bytes := by
  unfold read Disk.file find
  cases hplace : d.locate path with
  | error fault => simp [bind, Except.bind]
  | ok place =>
    cases hentry : d.get? place with
    | none => simp [hentry, bind, Except.bind, throw, throwThe, MonadExceptOf.throw]
    | some entry =>
      cases entry with
      | file file => simp [hentry, bind, Except.bind, pure, Except.pure]
      | folder =>
        simp [hentry, bind, Except.bind, pure, Except.pure, throw, throwThe, MonadExceptOf.throw]

/-- The way to a location stays open where every folder stays. -/
theorem locate_mono (hhere : d'.here = d.here)
    (h : ∀ place, d.get? place = some .folder → d'.get? place = some .folder)
    (hplace : d.locate path = .ok place) : d'.locate path = .ok place := by
  obtain ⟨hnull, hempty, hlong, hwalk⟩ := locate_eq_ok_iff.1 hplace
  have hroot : d'.root path = d.root path := by rw [root, root, hhere]
  refine locate_eq_ok_iff.2 ⟨hnull, hempty, hlong, ?_⟩
  rw [hroot]
  exact walk_mono h hwalk

end

/-- The other disk holds the same, and besides at most a new file. -/
structure Adds (d : Disk) (draft? : Option Location) (d' : Disk) : Prop where
  here : d'.here = d.here
  get? : ∀ place, draft? ≠ some place → d'.get? place = d.get? place
  new : ∀ draft, draft? = some draft →
    d.get? draft = none ∧ ∃ file, d'.get? draft = some (.file file)

namespace Adds

variable {d d' : Disk} {draft? : Option Location}

theorem of_same (h : d.Same d') : d.Adds none d' := ⟨h.here, fun place _ => h.get? place, nofun⟩

theorem get?_of_ne_none (h : d.Adds draft? d') {place : Location} (hplace : d.get? place ≠ none) :
    d'.get? place = d.get? place :=
  h.get? place fun hdraft => hplace (h.new place hdraft).1

/-- What can be read can be read still. -/
theorem read_eq_ok (h : d.Adds draft? d') {path : Path} {bytes : List UInt8}
    (hread : d.read path = .ok bytes) : d'.read path = .ok bytes := by
  obtain ⟨place, file, hlocate, hfile, hbytes⟩ := read_eq_ok_iff.1 hread
  have hstays {place : Location} {e : Entry} (he : d.get? place = some e) :
      d'.get? place = some e := by
    rw [h.get?_of_ne_none (he ▸ nofun), he]
  exact read_eq_ok_iff.2 ⟨place, file, locate_mono h.here (fun _ => hstays) hlocate, hstays hfile,
    hbytes⟩

end Adds

/-- The other disk holds a new file where a path leads, and else the same. -/
structure Swapped (d : Disk) (path : Path) (bytes : List UInt8) (d' : Disk) : Prop where
  here : d'.here = d.here
  holds : ∃ target, d.locate path = .ok target ∧ d.get? target ≠ some .folder ∧
    ∀ place, d'.get? place = if place = target then some (.file ⟨bytes, newMode⟩) else d.get? place

namespace Swapped

variable {d d' : Disk} {path : Path} {bytes : List UInt8}

theorem get?_folder (h : d.Swapped path bytes d') {place : Location}
    (hfolder : d.get? place = some .folder) : d'.get? place = some .folder := by
  obtain ⟨target, -, hnot, hget⟩ := h.holds
  have hne : place ≠ target := fun heq => hnot (heq ▸ hfolder)
  rw [hget, if_neg hne, hfolder]

theorem read (h : d.Swapped path bytes d') : d'.read path = .ok bytes := by
  obtain ⟨target, hlocate, -, hget⟩ := h.holds
  have hlocate' := locate_mono h.here (fun _ => h.get?_folder) hlocate
  exact read_eq_ok_iff.2 ⟨target, ⟨bytes, newMode⟩, hlocate', by rw [hget, if_pos rfl], rfl⟩

end Swapped

theorem folderOf?_eq_some {d : Disk} {path : Path} {place : Location}
    (h : d.folderOf? path = some place) :
    d.locate path.folder = .ok place ∧ d.get? place = some .folder := by
  unfold folderOf? at h
  dsimp only at h
  split at h
  · rename_i found hfound
    split at h
    · rename_i hfolder
      obtain rfl := Option.some.inj h
      exact ⟨hfound, hfolder.1⟩
    · cases h
  · cases h

theorem target?_eq_some {d : Disk} {path : Path} {place target : Location}
    (h : d.target? place path = some target) :
    ∃ name, path.name? = some name ∧ target = place ++ [name] ∧
      path.toList.contains '\x00' = false ∧ name.utf8ByteSize ≤ maxName ∧
      path.utf8ByteSize ≤ maxPath ∧ d.get? target ≠ some .folder ∧ target ∉ d.pinned := by
  obtain ⟨name, hname, h⟩ := Option.bind_eq_some_iff.1 h
  dsimp only at h
  split at h
  · cases h
  · rename_i hnot
    obtain rfl := Option.some.inj h
    simp only [not_or, Nat.not_lt, Bool.not_eq_true] at hnot
    exact ⟨name, hname, rfl, hnot⟩

section

variable {names : Naming} {d : Disk} {place other : Location} {path : Path} {bytes : List UInt8}

/-- The disk with the finished file beside the one that it is to replace. -/
def drafted (names : Naming) (d : Disk) (place : Location) (bytes : List UInt8) : Disk :=
  (d.put (place ++ [names.name d place]) (.file ⟨[], privateMode⟩)).put
    (place ++ [names.name d place]) (.file ⟨bytes, newMode⟩)

theorem get?_drafted (bytes : List UInt8) (h : other ≠ place ++ [names.name d place]) :
    (d.drafted names place bytes).get? other = d.get? other := by
  rw [drafted, get?_put_of_ne h, get?_put_of_ne h]

theorem adds_drafted (names : Naming) (d : Disk) (place : Location) (bytes : List UInt8) :
    d.Adds (some (place ++ [names.name d place])) (d.drafted names place bytes) where
  here := rfl
  get? other h := get?_drafted bytes fun heq => h (congrArg some heq.symm)
  new draft h := by
    obtain rfl := Option.some.inj h
    exact ⟨names.unused d place, ⟨bytes, newMode⟩, get?_put_self (by simp)⟩

theorem draft?_of_refusal {why : ReplaceFault} (h : d.refusal? bytes = some why) :
    why.draft? = none := by
  have hwhy : why = .write ∨ why = .flush ∨ why = .mode := by
    unfold refusal? at h
    grind
  rcases hwhy with rfl | rfl | rfl <;> rfl

theorem replace_of_folder (h : d.folderOf? path = some place) (bytes : List UInt8) :
    d.replace names path bytes =
      match d.refusal? bytes with
      | some why => ((d.put (place ++ [names.name d place]) (.file ⟨[], privateMode⟩)).remove
          (place ++ [names.name d place]), .error why)
      | none =>
        match (d.drafted names place bytes).target? place path with
        | none => (d.drafted names place bytes, .error (.move (place ++ [names.name d place])))
        | some target =>
          (((d.drafted names place bytes).remove (place ++ [names.name d place])).put target
            (.file ⟨bytes, newMode⟩), .ok ()) := by
  unfold replace
  simp only [h]
  rfl

theorem replace_of_noFolder (h : d.folderOf? path = none) :
    d.replace names path bytes = (d, .error .create) := by
  unfold replace
  rw [h]

/-- Either the disk holds what it held, with a new file at most if the fault keeps it, or it holds
the new file in place. -/
theorem replace_cases (names : Naming) (d : Disk) (path : Path) (bytes : List UInt8) :
    (∃ fault, (d.replace names path bytes).2 = .error fault ∧
      d.Adds fault.draft? (d.replace names path bytes).1) ∨
    ((d.replace names path bytes).2 = .ok () ∧
      d.Swapped path bytes (d.replace names path bytes).1) := by
  cases hplace : d.folderOf? path with
  | none =>
    rw [replace_of_noFolder hplace]
    exact .inl ⟨.create, rfl, .of_same ⟨rfl, fun _ => rfl⟩⟩
  | some place =>
    obtain ⟨hlocate, hfolder⟩ := folderOf?_eq_some hplace
    rw [replace_of_folder hplace]
    cases hrefusal : d.refusal? bytes with
    | some why =>
      refine .inl ⟨why, rfl, ?_⟩
      rw [draft?_of_refusal hrefusal]
      exact .of_same (same_remove rfl (names.unused d place) fun other hne => get?_put_of_ne hne)
    | none =>
      dsimp only
      split
      · exact .inl ⟨_, rfl, adds_drafted names d place bytes⟩
      · rename_i target htarget
        obtain ⟨name, hname, rfl, hnull, hsize, hlong, hnot, -⟩ := target?_eq_some htarget
        have hgone : d.Same ((d.drafted names place bytes).remove
            (place ++ [names.name d place])) :=
          same_remove rfl (names.unused d place) fun other hne => get?_drafted bytes hne
        have hleads := locate_of_folder hname hnull hlong hsize hlocate hfolder
        refine .inr ⟨rfl, rfl, place ++ [name], hleads, ?_, fun other => ?_⟩
        · by_cases hnew : place ++ [name] = place ++ [names.name d place]
          · rw [hnew, names.unused]
            exact nofun
          · rwa [get?_drafted bytes hnew] at hnot
        · split
          · rename_i heq
            rw [heq, get?_put_self (by simp)]
          · rename_i hne
            rw [get?_put_of_ne hne, hgone.get?]

theorem swapped_replace (h : (d.replace names path bytes).2 = .ok ()) :
    d.Swapped path bytes (d.replace names path bytes).1 := by
  obtain ⟨fault, hfault, -⟩ | ⟨-, hswapped⟩ := d.replace_cases names path bytes
  · rw [hfault] at h
    cases h
  · exact hswapped

theorem adds_of_replace_error {fault : ReplaceFault}
    (h : (d.replace names path bytes).2 = .error fault) :
    d.Adds fault.draft? (d.replace names path bytes).1 := by
  obtain ⟨why, hwhy, hadds⟩ | ⟨hok, -⟩ := d.replace_cases names path bytes
  · obtain rfl : fault = why := Except.error.inj (h.symm.trans hwhy)
    exact hadds
  · rw [hok] at h
    cases h

end

end RouteSync.Disk
