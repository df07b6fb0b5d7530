import RouteSync.Rehearsal.Shell.Tools.Lines

/-! Tools that tell about files, variables and the machine, or only take their time. -/
namespace RouteSync.Rehearsal.Shell

/-- Whether a text is a time to wait: a number, perhaps with a unit. -/
def isInterval (text : String) : Bool :=
  let cs := text.toList
  let whole := cs.takeWhile Char.isDigit
  let rest := cs.drop whole.length
  let (part, rest) := match rest with
    | '.' :: rest => (rest.takeWhile Char.isDigit, rest.dropWhile Char.isDigit)
    | rest => ([], rest)
  (text = "infinity" || !(whole.isEmpty && part.isEmpty)) &&
    [[], ['s'], ['m'], ['h'], ['d']].contains rest

/-- The rights of a file, spelled out as in a listing. -/
def modeText (e : Disk.Entry) : String :=
  let (kind, mode) := match e with
    | .folder => ('d', 0o755)
    | .file f => ('-', f.mode)
  let bits : List (Nat × Char) := [(256, 'r'), (128, 'w'), (64, 'x'), (32, 'r'), (16, 'w'),
    (8, 'x'), (4, 'r'), (2, 'w'), (1, 'x')]
  String.ofList (kind :: bits.map fun (bit, c) => if mode &&& bit ≠ 0 then c else '-')

/-- What stands for a letter in the description of a file. -/
def described (path : String) (e : Disk.Entry) (letter : Char) : List Char :=
  let (mode, size) := match e with
    | .folder => (0o755, 4096)
    | .file f => (f.mode, f.bytes.length)
  match letter with
  | 'a' => Nat.toDigits 8 mode
  | 'A' => (modeText e).toList
  | 's' => (toString size).toList
  | 'n' => path.toList
  | 'u' | 'g' => ['0']
  | 'U' | 'G' => "root".toList
  | 'F' =>
    match e with
    | .folder => "directory".toList
    | .file f => (if f.bytes.isEmpty then "regular empty file" else "regular file").toList
  | '%' => ['%']
  | _ => ['?']

def description (path : String) (e : Disk.Entry) : List Char → List Char
  | '%' :: c :: rest => described path e c ++ description path e rest
  | c :: rest => c :: description path e rest
  | [] => []

namespace Script

def sleep (args : List String) : Script Unit :=
  withOptions "sleep" {} args fun o => do
    if o.operands.isEmpty then misuse "sleep" "missing operand"
    else
      let faulty := o.operands.filter (!isInterval ·)
      for text in faulty do
        report "sleep" ("invalid time interval " ++ quote text)
      if !faulty.isEmpty then
        say 2 "Try 'sleep --help' for more information.\n"
        setStatus 1

def stat (args : List String) : Script Unit :=
  withOptions "stat"
    { plain := "Lt", valued := "c", long := [("format", 'c'), ("printf", 'p')] } args fun o => do
      if o.operands.isEmpty then misuse "stat" "missing operand"
      for path in o.operands do
        match ← entry path with
        | .ok e =>
          match o.value? 'p' with
          | some form =>
            let shown := description path e form.toList
            sayChars (unescaped (shown.length + 1) shown).1
          | none => sayChars (description path e ((o.value? 'c').getD "%n").toList ++ ['\n'])
        | .error fault =>
          report "stat" ("cannot statx " ++ quote path ++ ": " ++ faultText fault)
          setStatus 1

/-- The variables that other programs see. -/
def exported : Script (List Variable) :=
  return (← get).bindings.filter fun v => v.exported && v.value.isSome

def listExported : Script Unit := do
  for v in ← exported do
    say 1 (v.name ++ "=" ++ v.value.getD "" ++ "\n")

def printVariables (args : List String) : Script Unit := do
  setStatus 0
  if args.isEmpty then listExported
  for name in args do
    match (← exported).find? (·.name = name) with
    | some v => say 1 (v.value.getD "" ++ "\n")
    | none => setStatus 1

def who (args : List String) : Script Unit :=
  withOptions "id" { plain := "ugnr" } args fun o => do
    if o.has 'n' then say 1 "root\n"
    else if o.has 'u' || o.has 'g' then say 1 "0\n"
    else say 1 "uid=0(root) gid=0(root) groups=0(root)\n"

def reversedLines (args : List String) : Script Unit :=
  withOptions "tac" {} args fun o =>
    eachContent "tac" o.operands fun _ text => sayChars (endedLines text).reverse.flatten

/-- The full path of what may be missing only at its end. -/
def fullPath (tool : String) (args : List String) : Script Unit :=
  withOptions tool { plain := "fesm" } args fun o => do
    if o.operands.isEmpty then misuse tool "missing operand"
    for path in o.operands do
      if tool = "readlink" && !o.has 'f' then setStatus 1
      else
        match (← get).disk.locate (pathOf path) with
        | .ok place => say 1 ("/" ++ "/".intercalate (place.map ofPath) ++ "\n")
        | .error fault =>
          if tool = "realpath" then report tool (path ++ ": " ++ faultText fault)
          setStatus 1

/-- Makes a file or folder whose name no other one has. -/
def makeTemporary (args : List String) : Script Unit :=
  withOptions "mktemp" { plain := "dqu", valued := "pt" } args fun o => do
    let s ← get
    let mark := String.ofList ("0000000000".toList ++ Nat.toDigits 10 s.nextNumber)
    let template := (o.operands.head?).getD "/tmp/tmp.XXXXXXXXXX"
    let stem := template.toList.reverse.dropWhile (· = 'X')
    let count := template.length - stem.length
    let path := String.ofList (stem.reverse ++ mark.toList.drop (mark.length - count))
    match s.disk.locate (pathOf path) with
    | .ok place =>
      let e : Disk.Entry := if o.has 'd' then .folder else .file ⟨[], 0o600⟩
      set { s with disk := s.disk.put place e, nextNumber := s.nextNumber + 1 }
      say 1 (path ++ "\n")
    | .error fault =>
      let kind := if o.has 'd' then "directory" else "file"
      report "mktemp" ("failed to create " ++ kind ++ " via template " ++ quote template ++ ": " ++
        faultText fault)
      setStatus 1

/-- Time stands still at its start. -/
def dateText : List Char → List Char
  | '%' :: c :: rest =>
    (match c with
      | 'Y' => "1970"
      | 'm' | 'd' => "01"
      | 'H' | 'M' | 'S' => "00"
      | 's' => "0"
      | 'F' => "1970-01-01"
      | 'T' => "00:00:00"
      | 'N' => "000000000"
      | 'Z' => "UTC"
      | 'z' => "+0000"
      | '%' => "%"
      | c => String.ofList ['%', c]).toList ++ dateText rest
  | c :: rest => c :: dateText rest
  | [] => []

def date (args : List String) : Script Unit :=
  withOptions "date" { plain := "uR", valued := "d" } args fun o => do
    match o.operands.head?.map String.toList with
    | some ('+' :: form) => sayChars (dateText form ++ ['\n'])
    | _ => say 1 "Thu Jan  1 00:00:00 UTC 1970\n"

/-- Gives a file another name; the disk knows no links, so the text is copied. -/
def link (args : List String) : Script Unit :=
  withOptions "ln" { plain := "sfnv" } args fun o => do
    match o.operands with
    | [source, path] =>
      match (← get).disk.file (pathOf source), (← get).disk.locate (pathOf path) with
      | .ok f, .ok place =>
        if ((← get).disk.get? place).isSome && !o.has 'f' then
          let kind := if o.has 's' then "symbolic" else "hard"
          report "ln" ("failed to create " ++ kind ++ " link " ++ quote path ++ ": File exists")
          setStatus 1
        else modifyDisk (·.put place (.file f))
      | .error fault, _ =>
        report "ln" ("failed to access " ++ quote source ++ ": " ++ faultText fault)
        setStatus 1
      | _, .error fault =>
        report "ln" ("failed to create hard link " ++ quote path ++ ": " ++ faultText fault)
        setStatus 1
    | _ => misuse "ln" "missing file operand"

end Script
end RouteSync.Rehearsal.Shell
