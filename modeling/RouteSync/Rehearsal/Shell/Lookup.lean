import RouteSync.Rehearsal.Shell.Tools

/-! What the name of a command stands for. -/
namespace RouteSync.Rehearsal.Shell.Script

/-- Why a program cannot be run: it is not there, or nobody may run it. -/
inductive Missing where
  | notFound
  | forbidden
  deriving DecidableEq, Inhabited

def Missing.status : Missing → Nat
  | .notFound => 127
  | .forbidden => 126

def Missing.message : Missing → String
  | .notFound => "not found"
  | .forbidden => "Permission denied"

/-- What tools say about it. -/
def Missing.report : Missing → String
  | .notFound => "No such file or directory"
  | .forbidden => "Permission denied"

/-- Whether there is a program at a path. -/
def programAt (d : Disk) (path : String) : Except Missing Unit :=
  if (toolAt? path).isSome then .ok ()
  else match d.find (pathOf path) with
    | .ok (.file f) => if f.mode &&& 0o111 = 0 then .error .forbidden else .ok ()
    | .ok .folder => .error .forbidden
    | .error _ => .error .notFound

/-- The first program of a name in some folders. -/
def programIn (d : Disk) (name : String) (kept : Missing) : List String → Except Missing String
  | [] => .error kept
  | folder :: rest =>
    let path := if folder.isEmpty then name else within folder name
    match programAt d path with
    | .ok _ => .ok path
    | .error .notFound => programIn d name kept rest
    | .error .forbidden =>
      programIn d name (if d.isFile (pathOf path) then .forbidden else kept) rest

/-- The path of a program. -/
def findProgram (name : String) : Script (Except Missing String) := do
  let d := (← get).disk
  if name.toList.contains '/' then return (programAt d name).map fun _ => name
  else
    let folders := (Text.splitOn ':' ((← value? "PATH").getD "").toList).map String.ofList
    return if name.isEmpty then .error .notFound else programIn d name .notFound folders

/-- Builtins that run other commands. -/
def runningBuiltins : List String := [".", "command", "eval", "exec", "type"]

def isBuiltin (name : String) : Bool :=
  runningBuiltins.contains name || builtins.any (·.1 = name)

def function? (name : String) : Script (Option Command) :=
  return ((← get).functions.find? (·.1 = name)).map (·.2)

/-- Tells what a name stands for, in a sentence or, when that is short, so that it can be run. -/
def describe (short : Bool) (name : String) : Script Unit := do
  let tell (what : String) : Script Unit :=
    output ((if short then name else name ++ " is a " ++ what) ++ "\n")
  if keywords.contains name then tell "shell keyword"
  else if (← function? name).isSome then tell "shell function"
  else if isBuiltin name then
    tell (if specialBuiltins.contains name then "special shell builtin" else "shell builtin")
  else
    match ← findProgram name with
    | .ok path => output ((if short then path else name ++ " is " ++ path) ++ "\n")
    | .error _ =>
      if !short then output (name ++ ": not found\n")
      setStatus 127

def describeAll (args : List String) : Script Unit := do
  let (_, names) ← options "" "" args
  setStatus 0
  for name in names do
    describe false name

end RouteSync.Rehearsal.Shell.Script
