import RouteSync.Rehearsal.Shell.Expand
import RouteSync.Rehearsal.Shell.Tools.Files

/-! Where the numbers of a command lead, as its redirections say. -/
namespace RouteSync.Rehearsal.Shell.Script

/-- Runs something at the end of something else, whether that stops or not. -/
def afterwards (run last : Script Unit) : Script Unit := do
  try run
  catch stop =>
    last
    throw stop
  last

/-- The number that a path of the machine stands for. -/
def numberAt? (path : String) : Option Nat :=
  match path with
  | "/dev/stdin" => some 0
  | "/dev/stdout" => some 1
  | "/dev/stderr" => some 2
  | path =>
    let digits? (folder : String) : Option Nat :=
      if folder.toList.isPrefixOf path.toList then Text.natural? (path.toList.drop folder.length)
      else none
    (digits? "/dev/fd/").orElse fun _ => digits? "/proc/self/fd/"

/-- What keeps a file from being opened. -/
def openFault (opening : Opening) (fault : Disk.Fault) : String :=
  match fault with
  | .notFound | .notFolder =>
    if opening = .read then "No such file" else "Directory nonexistent"
  | fault => faultText fault

/-- Opens a file, and makes it if it is to be written. -/
def openFile (opening : Opening) (path : String) : Script (Except String Channel) := do
  let s ← get
  let opened (place : Disk.Location) : Script (Except String Channel) := do
    return .ok (← openSource { source := .file place, append := opening = .append })
  match s.disk.locate (pathOf path) with
  | .error fault => return .error (openFault opening fault)
  | .ok place =>
    match s.disk.get? place, opening with
    | none, .read => return .error (openFault opening .notFound)
    | none, _ =>
      let mode ← newMode
      modifyDisk (·.put place (.file ⟨[], mode⟩))
      opened place
    | some .folder, .read => opened place
    | some .folder, _ => return .error (faultText .isFolder)
    | some (.file f), .write | some (.file f), .over =>
      if s.switches.noClobber && opening = .write then return .error "File exists"
      else
        modifyDisk (·.put place (.file { f with bytes := [] }))
        opened place
    | some (.file _), _ => opened place

def openPath (opening : Opening) (path : String) : Script (Except String Channel) := do
  match path, numberAt? path with
  | "/dev/null", _ => return .ok (← openSource { source := .null })
  | "/dev/zero", _ => return .ok (← openSource { source := .zero })
  | "/dev/tty", _ => return .error "No such device or address"
  | _, some number =>
    match ← channel? number with
    | some c => return .ok c
    | none => return .error (openFault opening .notFound)
  | path, none => openFile opening path

/-- Does what a redirection says; tells whether it could. -/
def redirect (capture : Capture) : Redirection → Script Bool
  | .file number opening w => do
    let path ← text capture w
    match ← openPath opening path with
    | .ok c =>
      setChannel number (some c)
      return true
    | .error why =>
      let verb := if opening = .read then "open " else "create "
      complain ("cannot " ++ verb ++ path ++ ": " ++ why)
      return false
  | .same number w => do
    let other ← text capture w
    if other = "-" then
      setChannel number none
      return true
    else
      match Text.natural? other.toList with
      | some n =>
        match ← channel? n with
        | some c =>
          setChannel number (some c)
          return true
        | none =>
          /- Number two is closed first, so nothing can be said about it. -/
          if number ≠ 2 then complain (other ++ ": Bad file descriptor")
          return false
      | none =>
        modify fun s => { s with line := s.readLine }
        fatal "Syntax error: Bad fd number"
  | .here number place => do
    let body := (Script.get? place (← get).texts).getD []
    let chars := (textOf (← allPieces capture false body)).toList
    let c ← openSource { source := .text chars }
    setChannel number (some c)
    return true

def redirectAll (capture : Capture) : List Redirection → Script Bool
  | [] => return true
  | r :: rs => do if ← redirect capture r then redirectAll capture rs else return false

def setChannels (channels : List (Nat × Channel)) : Script Unit :=
  modify fun s => { s with channels }

end RouteSync.Rehearsal.Shell.Script
