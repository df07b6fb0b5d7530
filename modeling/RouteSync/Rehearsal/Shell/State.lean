import RouteSync.Publish.Script
import RouteSync.Rehearsal.Shell.Reading

/-! What a shell knows while it runs a script, and where it writes. -/
namespace RouteSync.Rehearsal.Shell

/-- Every byte as a character of its own. -/
def ofBytes (bytes : List UInt8) : List Char := bytes.map fun b => Char.ofNat b.toNat

def toBytes (chars : List Char) : List UInt8 := chars.map fun c => UInt8.ofNat c.toNat

/-- The path that a text of bytes spells. -/
def pathOf (text : String) : Disk.Path := Text.Utf8.lossy (toBytes text.toList)

/-- A path as a text of bytes. -/
def ofPath (path : Disk.Path) : String := String.ofList (ofBytes (Text.Utf8.bytes path))

/-- What is behind an open number. -/
inductive Source where
  | file (place : Disk.Location)
  /-- A text that only waits to be read. -/
  | text (chars : List Char)
  /-- Reads as an end at once, and takes everything. -/
  | null
  /-- Never ends, and is all zeros. -/
  | zero
  deriving DecidableEq, Inhabited

structure OpenFile where
  source : Source
  position : Nat := 0
  /-- What is written always goes to the end. -/
  append : Bool := false
  deriving DecidableEq, Inhabited

/-- Where an open number leads: to something that gathers what is written, or to an open file. -/
inductive Channel where
  | gather (n : Nat)
  | open (n : Nat)
  deriving DecidableEq, Inhabited

structure Variable where
  name : String
  value : Option String
  exported : Bool := false
  fixed : Bool := false
  deriving DecidableEq, Inhabited

/-- Why commands stop before their end. -/
inductive Stop where
  | exit (status : Nat)
  /-- The shell cannot go on, but for a command that is not one of its special ones. -/
  | fault (status : Nat)
  | killed (signal : Nat)
  /-- The end of a function, or of a file of commands. -/
  | return
  | break (loops : Nat)
  | continue (loops : Nat)
  deriving DecidableEq, Inhabited

/-- The switches of a shell. -/
structure Switches where
  /-- A failure ends the script. -/
  strict : Bool := false
  /-- Unset parameters are faults. -/
  noUnset : Bool := false
  /-- Commands are shown before they run. -/
  shown : Bool := false
  /-- Commands are read but not run. -/
  unmoved : Bool := false
  /-- No word is taken for a pattern of paths. -/
  noPatterns : Bool := false
  /-- Every parameter that is set is exported. -/
  exportAll : Bool := false
  /-- Files are not written over. -/
  noClobber : Bool := false
  deriving DecidableEq, Inhabited

structure State where
  disk : Disk
  /-- What the script is called by. -/
  name : String
  args : List String := []
  bindings : List Variable := []
  functions : List (String × Command) := []
  /-- The texts of the script itself. -/
  texts : List (Nat × Word) := []
  nextText : Nat := 0
  switches : Switches := {}
  line : Nat := 1
  /-- The line up to which the script is read. -/
  readLine : Nat := 1
  status : Nat := 0
  /-- How the last command ended whose output was asked for. -/
  outputStatus : Option Nat := none
  /-- What is gathered, in blocks, the last first. -/
  gathered : List (Nat × List (List Char)) := []
  opened : List (Nat × OpenFile) := []
  /-- The next number for something new behind a channel. -/
  nextSource : Nat := 0
  channels : List (Nat × Channel) := []
  /-- Commands for signals; signal zero is the end. -/
  traps : List (Nat × String) := []
  /-- Signals that were sent but not yet dealt with: to which process, and which one. -/
  signals : List (Nat × Nat) := []
  /-- Of each function under way, the last first, what its own variables stand in front of. -/
  locals : List (List (String × Option Variable)) := []
  loops : Nat := 0
  mask : Nat := 0o022
  /-- The number of the process, and those of the ones that started it, the last first. -/
  number : Nat := 4242
  parents : List Nat := [4241]
  nextNumber : Nat := 4243
  /-- Whether this is the shell of the process, and not a part that runs on its own. -/
  own : Bool := true
  /-- What was started in the background, and how it ended; the last first. -/
  jobs : List (Nat × Nat) := []
  /-- The builtin under way, which complaints name. -/
  builtin : Option String := none
  /-- Where the letters of options are read on: within which argument. -/
  optionLetter : Nat := 0

abbrev Script := EStateM Stop State

instance : Inhabited (Script Unit) := ⟨pure ()⟩

namespace Script

def get? {α : Type} (n : Nat) (xs : List (Nat × α)) : Option α := (xs.find? (·.1 = n)).map (·.2)

def put {α : Type} (n : Nat) (x : α) (xs : List (Nat × α)) : List (Nat × α) :=
  (n, x) :: xs.filter (·.1 ≠ n)

def setStatus (status : Nat) : Script Unit := modify fun s => { s with status }

/-- A new number for what is behind a channel. -/
def fresh : Script Nat :=
  modifyGet fun s => (s.nextSource, { s with nextSource := s.nextSource + 1 })

def openSource (f : OpenFile) : Script Channel := do
  let n ← fresh
  modify fun s => { s with opened := put n f s.opened }
  return .open n

/-- Something that gathers what is written from now on. -/
def openGather : Script Nat := do
  let n ← fresh
  modify fun s => { s with gathered := put n [] s.gathered }
  return n

def gatheredIn (n : Nat) : Script (List Char) := do
  return ((get? n (← get).gathered).getD []).reverse.flatten

def channel? (number : Nat) : Script (Option Channel) := return get? number (← get).channels

def setChannel (number : Nat) (c : Option Channel) : Script Unit := modify fun s =>
  { s with channels := match c with
      | some c => put number c s.channels
      | none => s.channels.filter (·.1 ≠ number) }

/-- Puts a text over another from a position on. -/
def overwrite (old : List Char) (position : Nat) (text : List Char) : List Char :=
  let start := old.take position
  start ++ List.replicate (position - start.length) '\x00' ++ text ++
    old.drop (position + text.length)

def writeSource (n : Nat) (f : OpenFile) (text : List Char) : Script Unit := do
  match f.source with
  | .file place =>
    match (← get).disk.get? place with
    | some (.file file) =>
      let old := ofBytes file.bytes
      let position := if f.append then old.length else f.position
      let bytes := toBytes (overwrite old position text)
      modify fun s => { s with
        disk := s.disk.put place (.file { file with bytes })
        opened := put n { f with position := position + text.length } s.opened }
    | _ => pure ()
  | _ => pure ()

/-- Writes to a number, if it is open. -/
def write? (number : Nat) (text : List Char) : Script Bool := do
  match ← channel? number with
  | some (.gather n) =>
    modify fun s => { s with gathered := put n (text :: (get? n s.gathered).getD []) s.gathered }
    return true
  | some (.open n) =>
    match get? n (← get).opened with
    | some f => writeSource n f text; return true
    | none => return false
  | none => return false

def say (number : Nat) (text : String) : Script Unit := do
  let _ ← write? number text.toList

/-- What is left to read of an open file. -/
def leftOf (f : OpenFile) : Script (List Char) := do
  match f.source with
  | .file place =>
    match (← get).disk.get? place with
    | some (.file file) => return (ofBytes file.bytes).drop f.position
    | _ => return []
  | .text chars => return chars.drop f.position
  | .null | .zero => return []

/-- What is left to read under a number, without reading it. -/
def left (number : Nat) : Script (List Char) := do
  match ← channel? number with
  | some (.open n) =>
    match get? n (← get).opened with
    | some f => leftOf f
    | none => return []
  | _ => return []

def isZero (number : Nat) : Script Bool := do
  match ← channel? number with
  | some (.open n) => return (get? n (← get).opened).any (·.source = .zero)
  | _ => return false

/-- Goes past so many characters under a number. -/
def advance (number count : Nat) : Script Unit := do
  match ← channel? number with
  | some (.open n) =>
    modify fun s => { s with
      opened := s.opened.map fun (m, f) =>
        (m, if m = n then { f with position := f.position + count } else f) }
  | _ => pure ()

def readAll (number : Nat) : Script (List Char) := do
  let text ← left number
  advance number text.length
  return text

/-- Faults of the shell itself name the script, the line and the builtin. -/
def complain (what : String) : Script Unit := do
  let s ← get
  let builtin := (s.builtin.map (· ++ ": ")).getD ""
  say 2 (s.name ++ ": " ++ toString s.line ++ ": " ++ builtin ++ what ++ "\n")

/-- A fault that ends the script. -/
def fatal {α : Type} (what : String) (status : Nat := 2) : Script α := do
  complain what
  setStatus status
  throw (.fault status)

def lookup? (name : String) : Script (Option Variable) := do
  return (← get).bindings.find? (·.name = name)

def value? (name : String) : Script (Option String) := return (← lookup? name).bind (·.value)

def setVariable (v : Variable) : Script Unit := modify fun s =>
  { s with bindings := s.bindings.filter (·.name ≠ v.name) ++ [v] }

/-- Sets a variable, unless it is fixed. -/
def assign (name value : String) : Script Unit := do
  match ← lookup? name with
  | some v =>
    if v.fixed then fatal (name ++ ": is read only")
    else
      let exported := v.exported || (← get).switches.exportAll
      setVariable { v with value := some value, exported }
  | none => setVariable { name, value := some value, exported := (← get).switches.exportAll }

/-- What a part on its own leaves behind: the disk, what was written and read, and signals. -/
def joined (s inner : State) (status : Nat) : State :=
  { s with
    disk := { inner.disk with here := s.disk.here }
    gathered := inner.gathered, opened := inner.opened, nextSource := inner.nextSource
    texts := inner.texts, nextText := inner.nextText, signals := inner.signals
    nextNumber := inner.nextNumber, status }

/-- Runs something from a state of its own; tells the signal that it dies of. -/
def runFrom (start : State) (run : Script Unit) : Script (Option Nat) := fun s =>
  match run start with
  | .ok _ t => .ok none (joined s t t.status)
  | .error (.exit status) t | .error (.fault status) t => .ok none (joined s t status)
  | .error (.killed signal) t => .ok (some signal) (joined s t (128 + signal))
  | .error _ t => .ok none (joined s t t.status)

/-- Runs something whose changes are its own, but for the disk and what is written and read. Of the
traps only the empty ones are left in it. -/
def apart (run : Script Unit) : Script Unit := do
  let s ← get
  let start := { s with
    own := false, jobs := [], outputStatus := none
    traps := s.traps.filter (·.2.isEmpty) }
  let _ ← runFrom start run

end Script
end RouteSync.Rehearsal.Shell
