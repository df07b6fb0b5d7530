import RouteSync.Disk.Basic

/-! Replacing a file as a whole: a reader sees its old text or its new one, never a part. -/
namespace RouteSync.Disk

/-- How new files are named: always as nothing else that is there. -/
structure Naming where
  name : Disk → Location → String
  unused : ∀ (d : Disk) (place : Location), d.get? (place ++ [name d place]) = none

namespace Naming

theorem mem_names {d : Disk} {place : Location} {name : String} {e : Entry}
    (h : d.get? (place ++ [name]) = some e) : name ∈ d.names place := by
  rw [get?, if_neg (by simp)] at h
  obtain ⟨⟨inner, e'⟩, hfind, -⟩ := Option.map_eq_some_iff.1 h
  have hinner : inner = place ++ [name] := by simpa using List.find?_some hfind
  refine List.mem_filterMap.2 ⟨(inner, e'), List.mem_of_find?_eq_some hfind, ?_⟩
  simp [hinner]

theorem le_foldl_max {names : List String} {name : String} (h : name ∈ names) (n : Nat) :
    name.length ≤ names.foldl (fun n name => max n name.length) n := by
  have hmono : ∀ (names : List String) (n : Nat),
      n ≤ names.foldl (fun n name => max n name.length) n := by
    intro names
    induction names with
    | nil => exact fun n => Nat.le_refl n
    | cons first names ih => exact fun n => Nat.le_trans (Nat.le_max_left n _) (ih _)
  induction names generalizing n with
  | nil => cases h
  | cons first names ih =>
    rcases List.mem_cons.1 h with rfl | h
    · exact Nat.le_trans (Nat.le_max_right n _) (hmono names _)
    · exact ih h _

/-- A name longer than every name in the folder, and so none of them. -/
def longest : Naming where
  name d place :=
    let length := (d.names place).foldl (fun n name => max n name.length) 0
    ".tmp" ++ String.ofList (List.replicate length '0')
  unused d place := by
    refine Option.eq_none_iff_forall_ne_some.2 fun e h => ?_
    have hle := le_foldl_max (mem_names h) 0
    simp only [String.length_append, String.length_ofList, List.length_replicate] at hle
    have htmp : ".tmp".length = 4 := by decide
    omega

end Naming

inductive ReplaceFault where
  /-- No new file can be made in the folder. -/
  | create
  | write
  | flush
  /-- The new file cannot be given rights for all to read. -/
  | mode
  /-- The new file stays beside the old one as long as the fault is kept. -/
  | move (draft : Location)
  deriving DecidableEq, Inhabited

/-- The new file that a fault keeps. -/
def ReplaceFault.draft? : ReplaceFault → Option Location
  | .move draft => some draft
  | _ => none

/-- Takes away a new file that nobody keeps any more. -/
def release (d : Disk) : Option Location → Disk
  | none => d
  | some draft =>
    match d.get? draft with
    | some (.file _) => d.remove draft
    | _ => d

/-- The length of a new file's name in a folder, in bytes. -/
def freshLength : Nat := 10

/-- The length in bytes of a folder's path, counted from the top. -/
def wholeLength (d : Disk) (folder : Path) : Nat :=
  if folder.toList.head? = some '/' then folder.utf8ByteSize
  else d.here.foldl (fun n name => n + name.utf8ByteSize + 1) 0 + 1 + folder.utf8ByteSize

/-- The location of a path's folder, if the folder is there and takes new files, and the path of a
new file in it is not too long. -/
def folderOf? (d : Disk) (path : Path) : Option Location :=
  let folder := Path.folder path
  match d.locate folder with
  | .ok place =>
    if d.get? place = some .folder ∧ place ∉ d.closed ∧
        d.wholeLength folder + 1 + freshLength ≤ maxPath then
      some place
    else none
  | .error _ => none

/-- Where a file of a folder goes when it is moved to a path in the same folder: never in the
place of a folder or of a file that cannot be replaced, nor to a name that no file can have. -/
def target? (d : Disk) (place : Location) (path : Path) : Option Location := do
  let name ← Path.name? path
  let target := place ++ [name]
  if path.toList.contains '\x00' ∨ maxName < name.utf8ByteSize ∨ maxPath < path.utf8ByteSize ∨
      d.get? target = some .folder ∨ target ∈ d.pinned then
    none
  else some target

/-- A new file starts out with its owner's rights only. -/
def privateMode : Nat := 0o600

/-- The first thing that the disk refuses to do with a new file: to take the bytes, to make them
last, or to change the file's mode. -/
def refusal? (d : Disk) (bytes : List UInt8) : Option ReplaceFault :=
  if d.full ∧ bytes ≠ [] then some .write
  else if d.volatile then some .flush
  else if d.fixedModes then some .mode
  else none

/-- Writes a new file beside the one at the path, makes it last, gives it rights for all to read,
and moves it into place. A file that cannot be finished is taken away at once; one that is finished
and cannot be moved is left to the fault. -/
def replace (names : Naming) (d : Disk) (path : Path) (bytes : List UInt8) :
    Disk × Except ReplaceFault Unit :=
  match d.folderOf? path with
  | none => (d, .error .create)
  | some place =>
    let draft := place ++ [names.name d place]
    let opened := d.put draft (.file ⟨[], privateMode⟩)
    match d.refusal? bytes with
    | some why => (opened.remove draft, .error why)
    | none =>
      let ready := opened.put draft (.file ⟨bytes, newMode⟩)
      match ready.target? place path with
      | none => (ready, .error (.move draft))
      | some target => ((ready.remove draft).put target (.file ⟨bytes, newMode⟩), .ok ())

end RouteSync.Disk
