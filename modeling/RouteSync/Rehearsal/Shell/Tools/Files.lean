import RouteSync.Rehearsal.Shell.Tools.Options
import RouteSync.Text.Digits

/-! Tools that change files and folders. -/
namespace RouteSync.Rehearsal.Shell

namespace Script

def modifyDisk (f : Disk → Disk) : Script Unit := modify fun s => { s with disk := f s.disk }

/-- The mode of a new file. -/
def newMode : Script Nat := return 0o666 - (0o666 &&& (← get).mask)

/-- The last name on a path. -/
def lastName (path : String) : String :=
  let cs := path.toList.reverse.dropWhile (· = '/')
  if cs.isEmpty && !path.isEmpty then "/" else String.ofList (cs.takeWhile (· ≠ '/')).reverse

def within (folder name : String) : String :=
  if folder.toList.getLast? = some '/' then folder ++ name else folder ++ "/" ++ name

/-- All that is at a place or below it. -/
def below (d : Disk) (place : Disk.Location) : List (Disk.Location × Disk.Entry) :=
  d.entries.filter fun (other, _) => place.isPrefixOf other

def removeAll (d : Disk) (place : Disk.Location) : Disk :=
  { d with entries := d.entries.filter fun (other, _) => !place.isPrefixOf other }

/-- Puts what is at one place at another as well. -/
def copyAll (d : Disk) (source target : Disk.Location) : Disk :=
  (below d source).foldl (fun d (other, e) => d.put (target ++ other.drop source.length) e) d

/-- Where several things go: the one place that is named, or into the folder that is. -/
def target (tool : String) (o : Options) : Script (Option (List String × String × Bool)) := do
  match o.operands.getLast?, o.operands.dropLast with
  | none, _ =>
    misuse tool "missing file operand"
    return none
  | some only, [] =>
    misuse tool ("missing destination file operand after " ++ quote only)
    return none
  | some last, sources =>
    let isFolder := match ← entry last with
      | .ok .folder => !o.has 'T'
      | _ => false
    if 1 < sources.length && !isFolder then
      let why := match ← entry last with
        | .ok _ => "Not a directory"
        | .error fault => faultText fault
      report tool ("target " ++ quote last ++ ": " ++ why)
      setStatus 1
      return none
    else return some (sources, last, isFolder)

def copyOne (o : Options) (source path : String) : Script Unit := do
  let s ← get
  let fail (what : String) : Script Unit := do
    report "cp" what
    setStatus 1
  let deep := o.has 'r' || o.has 'R' || o.has 'a'
  match s.disk.find (pathOf source), s.disk.locate (pathOf source), s.disk.locate (pathOf path) with
  | .error fault, _, _ => fail ("cannot stat " ++ quote source ++ ": " ++ faultText fault)
  | .ok .folder, .ok from_, to? =>
    if !deep then fail ("-r not specified; omitting directory " ++ quote source)
    else match to? with
      | .ok place =>
        match s.disk.get? place with
        | some (.file _) =>
          fail ("cannot overwrite non-directory " ++ quote path ++ " with directory " ++
            quote source)
        | _ => modifyDisk fun d => copyAll d from_ place
      | .error fault => fail ("cannot create directory " ++ quote path ++ ": " ++ faultText fault)
  | .ok (.file f), .ok from_, .ok place =>
    if from_ = place then fail (quote source ++ " and " ++ quote path ++ " are the same file")
    else match s.disk.get? place with
      | some .folder => fail ("cannot overwrite directory " ++ quote path ++ " with non-directory")
      | some (.file old) =>
        if o.has 'n' then pure ()
        else
          let mode := if o.has 'p' || o.has 'a' then f.mode else old.mode
          modifyDisk fun d => d.put place (.file ⟨f.bytes, mode⟩)
      | none =>
        if path.toList.getLast? = some '/' then
          fail ("cannot create regular file " ++ quote path ++ ": Not a directory")
        else
          let mode := if o.has 'p' || o.has 'a' then f.mode else f.mode - (f.mode &&& s.mask)
          modifyDisk fun d => d.put place (.file ⟨f.bytes, mode⟩)
  | .ok (.file _), _, .error fault =>
    fail ("cannot create regular file " ++ quote path ++ ": " ++ faultText fault)
  | _, _, _ => pure ()

def copyFiles (args : List String) : Script Unit :=
  withOptions "cp" { plain := "rRapfTnuv", long := [("recursive", 'r'), ("force", 'f')] } args
    fun o => do
      if let some (sources, last, isFolder) ← target "cp" o then
        for source in sources do
          let path := if isFolder then within last (lastName source) else last
          copyOne o source path
          if o.has 'v' then say 1 (quote source ++ " -> " ++ quote path ++ "\n")

def moveOne (o : Options) (source path : String) : Script Unit := do
  let d := (← get).disk
  let fail (what : String) : Script Unit := do
    report "mv" what
    setStatus 1
  match d.find (pathOf source), d.locate (pathOf source), d.locate (pathOf path) with
  | .error fault, _, _ => fail ("cannot stat " ++ quote source ++ ": " ++ faultText fault)
  | .ok e, .ok from_, .ok place =>
    if from_ = place then fail (quote source ++ " and " ++ quote path ++ " are the same file")
    else
      let folder := e = .folder
      match d.get? place with
      | some .folder =>
        if !folder then fail ("cannot overwrite directory " ++ quote path ++ " with non-directory")
        else if (below d place).length > 1 then
          fail ("cannot move " ++ quote source ++ " to " ++ quote path ++ ": Directory not empty")
        else modifyDisk fun d => removeAll (copyAll (removeAll d place) from_ place) from_
      | some (.file _) =>
        if folder then
          fail ("cannot overwrite non-directory " ++ quote path ++ " with directory " ++
            quote source)
        else if o.has 'n' then pure ()
        else modifyDisk fun d => (d.remove from_).put place e
      | none =>
        if from_.isPrefixOf place then
          fail ("cannot move " ++ quote source ++ " to a subdirectory of itself, " ++ quote path)
        else if !folder && path.toList.getLast? = some '/' then
          fail ("cannot move " ++ quote source ++ " to " ++ quote path ++ ": Not a directory")
        else modifyDisk fun d => removeAll (copyAll d from_ place) from_
  | .ok _, _, .error fault =>
    fail ("cannot move " ++ quote source ++ " to " ++ quote path ++ ": " ++ faultText fault)
  | _, _, _ => pure ()

def moveFiles (args : List String) : Script Unit :=
  withOptions "mv" { plain := "fnTuv", long := [("force", 'f')] } args fun o => do
    if let some (sources, last, isFolder) ← target "mv" o then
      for source in sources do
        moveOne o source (if isFolder then within last (lastName source) else last)

def removeFiles (args : List String) : Script Unit :=
  withOptions "rm" { plain := "rRfdvi", long := [("recursive", 'r'), ("force", 'f')] } args
    fun o => do
      let deep := o.has 'r' || o.has 'R'
      let fail (path what : String) : Script Unit := do
        report "rm" ("cannot remove " ++ quote path ++ ": " ++ what)
        setStatus 1
      if o.operands.isEmpty && !o.has 'f' then misuse "rm" "missing operand"
      for path in o.operands do
        let d := (← get).disk
        match d.find (pathOf path), d.locate (pathOf path) with
        | .ok (.file _), .ok place => modifyDisk (·.remove place)
        | .ok .folder, .ok place =>
          if deep then modifyDisk fun d => removeAll d place
          else if o.has 'd' then
            if (below d place).length > 1 then fail path "Directory not empty"
            else modifyDisk (·.remove place)
          else fail path "Is a directory"
        | .error fault, _ =>
          let missing := fault = .notFound || fault = .notFolder
          if !(o.has 'f' && missing) then fail path (faultText fault)
        | _, _ => pure ()

/-- Makes a folder, and with `p` those on the way to it. -/
def makeFolder (o : Options) (path : String) : Script Unit := do
  let fail (what : String) : Script Unit := do
    report "mkdir" ("cannot create directory " ++ quote path ++ ": " ++ what)
    setStatus 1
  let wayTo := if o.has 'p' then pathOf path ++ "/x" else pathOf path
  if o.has 'p' then
    match (← get).disk.find (pathOf path) with
    | .ok (.file _) => fail "File exists"
    | .error .notFolder => fail "Not a directory"
    | _ => modifyDisk fun d => d.makeFolders wayTo
  else
    let d := (← get).disk
    match d.locate (pathOf path) with
    | .ok place =>
      if (d.get? place).isSome then fail "File exists" else modifyDisk (·.put place .folder)
    | .error fault => fail (faultText fault)

def makeFolders (args : List String) : Script Unit :=
  withOptions "mkdir" { plain := "pv", valued := "m", long := [("parents", 'p')] } args fun o => do
    if o.operands.isEmpty then misuse "mkdir" "missing operand"
    for path in o.operands do
      makeFolder o path

def removeFolders (args : List String) : Script Unit :=
  withOptions "rmdir" { plain := "p" } args fun o => do
    if o.operands.isEmpty then misuse "rmdir" "missing operand"
    for path in o.operands do
      let d := (← get).disk
      let fail (what : String) : Script Unit := do
        report "rmdir" ("failed to remove " ++ quote path ++ ": " ++ what)
        setStatus 1
      match d.find (pathOf path), d.locate (pathOf path) with
      | .ok .folder, .ok place =>
        if (below d place).length > 1 then fail "Directory not empty"
        else modifyDisk (·.remove place)
      | .ok _, _ => fail "Not a directory"
      | .error fault, _ => fail (faultText fault)

def touch (args : List String) : Script Unit :=
  withOptions "touch" { plain := "amc", valued := "dtr" } args fun o => do
    if o.operands.isEmpty then misuse "touch" "missing file operand"
    for path in o.operands do
      let d := (← get).disk
      match d.locate (pathOf path) with
      | .ok place =>
        if (d.get? place).isNone && !o.has 'c' then
          let mode ← newMode
          modifyDisk (·.put place (.file ⟨[], mode⟩))
      | .error fault =>
        report "touch" ("cannot touch " ++ quote path ++ ": " ++ faultText fault)
        setStatus 1

/-- The bits that letters stand for. -/
def rights (letters : List Char) (executable : Bool) : Nat :=
  letters.foldl (fun n c => n ||| match c with
    | 'r' => 4
    | 'w' => 2
    | 'x' => 1
    | 'X' => if executable then 1 else 0
    | _ => 0) 0

/-- A mode after a change such as `u+x`; without those concerned, all are, as far as the mask allows
it. -/
def changedMode? (mask old : Nat) (change : List Char) : Option Nat := do
  let who := change.takeWhile fun c => "ugoa".toList.contains c
  let sign ← (change.drop who.length).head?
  let letters := change.drop (who.length + 1)
  if !"+-=".toList.contains sign || !letters.all fun c => "rwxX".toList.contains c then none
  let all := who.isEmpty || who.contains 'a'
  let bits := rights letters (old &&& 0o111 ≠ 0)
  let spread (n : Nat) : Nat :=
    (if all || who.contains 'u' then n * 64 else 0) |||
      (if all || who.contains 'g' then n * 8 else 0) ||| (if all || who.contains 'o' then n else 0)
  let wanted := spread bits
  let wanted := if who.isEmpty then wanted - (wanted &&& mask) else wanted
  match sign with
  | '+' => return old ||| wanted
  | '-' => return old - (old &&& wanted)
  | _ => return (old - (old &&& spread 7)) ||| wanted

def mode? (mask old : Nat) (text : String) : Option Nat :=
  let cs := text.toList
  if !cs.isEmpty && cs.all fun c => '0' ≤ c && c ≤ '7' then
    some (cs.foldl (fun n c => n * 8 + (c.toNat - 48)) 0 % 4096)
  else (Text.splitOn ',' cs).foldl (fun old? change => old?.bind fun old =>
    changedMode? mask old change) (some old)

/-- Changes modes. A change that begins with a hyphen looks like an option. -/
def changeModes (args : List String) : Script Unit := do
  setStatus 0
  match args.filter fun arg => !(["-R", "-f", "-v", "--"].contains arg) with
  | [] => misuse "chmod" "missing operand"
  | [mode] => misuse "chmod" ("missing operand after " ++ quote mode)
  | mode :: paths =>
    if (mode? (← get).mask 0 mode).isNone then misuse "chmod" ("invalid mode: " ++ quote mode)
    else
      for path in paths do
        let s ← get
        match s.disk.find (pathOf path), s.disk.locate (pathOf path) with
        | .ok (.file f), .ok place =>
          let mode := (mode? s.mask f.mode mode).getD f.mode
          modifyDisk (·.put place (.file { f with mode }))
        | .error fault, _ =>
          report "chmod" ("cannot access " ++ quote path ++ ": " ++ faultText fault)
          setStatus 1
        | _, _ => pure ()

/-- The names in a folder, in order; those that start with a point only if they are wanted. -/
def namesIn (d : Disk) (o : Options) (place : Disk.Location) : List String :=
  let names := ((d.names place).map ofPath).mergeSort fun a b => !decide (b < a)
  let names := names.filter fun name => o.has 'a' || o.has 'A' || name.toList.head? ≠ some '.'
  let names := if o.has 'a' then "." :: ".." :: names else names
  if o.has 'r' then names.reverse else names

def listFiles (args : List String) : Script Unit :=
  withOptions "ls" { plain := "aA1dFrRtC" } args (fun o => do
    let d := (← get).disk
    let paths := if o.operands.isEmpty then ["."]
      else o.operands.mergeSort fun a b => !decide (b < a)
    for path in paths do
      match d.find (pathOf path) with
      | .error fault =>
        report "ls" ("cannot access " ++ quote path ++ ": " ++ faultText fault)
        setStatus 2
      | .ok _ => pure ()
    let isFolder (path : String) : Bool :=
      !o.has 'd' && (d.find (pathOf path)).toOption = some .folder
    let files := paths.filter fun path => (d.find (pathOf path)).toBool && !isFolder path
    for path in files do
      say 1 (path ++ "\n")
    let mut first := files.isEmpty
    for path in paths.filter isFolder do
      if 1 < paths.length then say 1 ((if first then "" else "\n") ++ path ++ ":\n")
      first := false
      match d.locate (pathOf path) with
      | .ok place =>
        for name in namesIn d o place do
          say 1 (name ++ "\n")
      | .error _ => pure ()) 2

end Script
end RouteSync.Rehearsal.Shell
