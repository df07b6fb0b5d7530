import RouteSync.Disk.Path
import RouteSync.Text.Utf8

/-! Files and folders. -/
namespace RouteSync

namespace Disk

/-- The names on the way down to a file or folder. -/
abbrev Location := List String

structure File where
  bytes : List UInt8
  mode : Nat
  deriving DecidableEq, Inhabited

inductive Entry where
  | file (file : File)
  | folder
  deriving DecidableEq, Inhabited

inductive Fault where
  | notFound
  | notFolder
  | isFolder
  | nameTooLong
  /-- No name holds a null character. -/
  | nullInName
  | noRoom
  | notText
  deriving DecidableEq, Inhabited

def Fault.text : Fault → String
  | .notFound => "No such file or directory (os error 2)"
  | .notFolder => "Not a directory (os error 20)"
  | .isFolder => "Is a directory (os error 21)"
  | .nameTooLong => "File name too long (os error 36)"
  | .nullInName => "file name contained an unexpected NUL byte"
  | .noRoom => "No space left on device (os error 28)"
  | .notText => "stream did not contain valid UTF-8"

end Disk

/-- All files and folders below the top one. A full disk takes no more bytes. -/
structure Disk where
  entries : List (Disk.Location × Disk.Entry) := []
  /-- Where relative paths start. -/
  here : Disk.Location := []
  full : Bool := false
  /-- What was written cannot be made to last. -/
  volatile : Bool := false
  /-- No file can be given another mode. -/
  fixedModes : Bool := false
  /-- Folders that take no new file. -/
  closed : List Disk.Location := []
  /-- Files that cannot be replaced. -/
  pinned : List Disk.Location := []
  deriving DecidableEq, Inhabited

namespace Disk

/-- The top folder is always there. -/
def get? (d : Disk) (place : Location) : Option Entry :=
  if place = [] then some .folder else (d.entries.find? (·.1 = place)).map (·.2)

def remove (d : Disk) (place : Location) : Disk :=
  { d with entries := d.entries.filter (·.1 ≠ place) }

def put (d : Disk) (place : Location) (e : Entry) : Disk :=
  { d with entries := (place, e) :: (d.remove place).entries }

theorem get?_put_self {d : Disk} {place : Location} {e : Entry} (h : place ≠ []) :
    (d.put place e).get? place = some e := by
  simp [get?, put, h]

theorem find?_filter_of_ne {entries : List (Location × Entry)} {place other : Location}
    (h : other ≠ place) :
    (entries.filter (·.1 ≠ place)).find? (·.1 = other) = entries.find? (·.1 = other) := by
  induction entries with
  | nil => rfl
  | cons e es ih =>
    by_cases hp : e.1 = place
    · have ho : e.1 ≠ other := fun ho => h (ho.symm.trans hp)
      simp only [List.filter_cons, hp, ne_eq, not_true, decide_false, Bool.false_eq_true, if_false]
      rw [ih, List.find?_cons_of_neg (by simpa using ho)]
    · by_cases ho : e.1 = other
      · simp [ho, h]
      · simp only [List.filter_cons, ne_eq, hp, not_false_iff, decide_true, if_true]
        rw [List.find?_cons_of_neg (by simpa using ho), List.find?_cons_of_neg (by simpa using ho),
          ih]

theorem get?_remove_of_ne {d : Disk} {place other : Location} (h : other ≠ place) :
    (d.remove place).get? other = d.get? other := by
  simp only [get?, remove]
  rw [find?_filter_of_ne h]

theorem get?_put_of_ne {d : Disk} {place other : Location} {e : Entry} (h : other ≠ place) :
    (d.put place e).get? other = d.get? other := by
  have hne : ¬place = other := fun hp => h hp.symm
  simp only [get?, put]
  rw [List.find?_cons_of_neg (by simpa using hne), show (d.remove place).entries =
    d.entries.filter (·.1 ≠ place) from rfl, find?_filter_of_ne h]

theorem get?_remove_self {d : Disk} {place : Location} (h : place ≠ []) :
    (d.remove place).get? place = none := by
  simp [get?, remove, h]

/-- The longest name that a file may have, in bytes. -/
def maxName : Nat := 255

/-- The longest path, in bytes. -/
def maxPath : Nat := 4095

/-- Follows the parts of a path from a location down, or up where two points stand. -/
def walk (d : Disk) (place : Location) : List String → Except Fault Location
  | [] => .ok place
  | part :: parts =>
    match d.get? place with
    | none => .error .notFound
    | some (.file _) => .error .notFolder
    | some .folder =>
      if Path.isIdle part then d.walk place parts
      else if part = ".." then d.walk place.dropLast parts
      else if maxName < part.utf8ByteSize then .error .nameTooLong
      else d.walk (place ++ [part]) parts

/-- The location that a path leads to, where there may be nothing. -/
def locate (d : Disk) (path : Path) : Except Fault Location :=
  if path.toList.contains '\x00' then .error .nullInName
  else if path.isEmpty then .error .notFound
  else if maxPath < path.utf8ByteSize then .error .nameTooLong
  else if path.toList.head? = some '/' then d.walk [] path.parts
  else d.walk d.here path.parts

/-- The file or folder at a path. -/
def find (d : Disk) (path : Path) : Except Fault Entry := do
  match d.get? (← d.locate path) with
  | some e => return e
  | none => throw .notFound

def isFile (d : Disk) (path : Path) : Bool :=
  match d.find path with
  | .ok (.file _) => true
  | _ => false

def file (d : Disk) (path : Path) : Except Fault File := do
  match ← d.find path with
  | .file f => return f
  | .folder => throw .isFolder

def read (d : Disk) (path : Path) : Except Fault (List UInt8) := File.bytes <$> d.file path

def readText (d : Disk) (path : Path) : Except Fault String := do
  match Text.Utf8.strict? (← d.read path) with
  | some text => return text
  | none => throw .notText

/-- The mode of new files. -/
def newMode : Nat := 0o644

/-- Writes straight into a file, which keeps its mode if it is there already. -/
def write (d : Disk) (path : Path) (bytes : List UInt8) : Except Fault Disk := do
  let place ← d.locate path
  match d.get? place with
  | some .folder => throw .isFolder
  | some (.file f) => if d.full then throw .noRoom else return d.put place (.file { f with bytes })
  | none => if d.full then throw .noRoom else return d.put place (.file ⟨bytes, newMode⟩)

/-- Makes the folders on the way to a path, as far as they are missing. -/
def makeFolders (d : Disk) (path : Path) : Disk :=
  let start := if path.toList.head? = some '/' then [] else d.here
  let parts := path.parts.dropLast.filter fun part => !Path.isIdle part && part ≠ ".."
  let step (state : Disk × Location) (part : String) : Disk × Location :=
    let place := state.2 ++ [part]
    (if (state.1.get? place).isNone then state.1.put place .folder else state.1, place)
  (parts.foldl step (d, start)).1

/-- The names of all that is right in a folder. -/
def names (d : Disk) (place : Location) : List String :=
  d.entries.filterMap fun (inner, _) =>
    match inner.getLast? with
    | some name => if inner.dropLast = place then some name else none
    | none => none

end Disk
end RouteSync
