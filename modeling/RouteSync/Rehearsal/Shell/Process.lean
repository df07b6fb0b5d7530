import RouteSync.Rehearsal.Shell.Runner

/-! Programs: other shells, scripts that name the program that runs them, and tools that run a
command. -/
namespace RouteSync.Rehearsal.Shell.Script

/-- The state in which a process starts that the shell has started. -/
def childState (s : State) (name : String) : State :=
  let kept := (s.bindings.filter fun v => v.exported && v.name ≠ "PPID").map fun v =>
    { v with fixed := false }
  { s with
    name, args := [], functions := [], switches := {}, line := 0, status := 0, locals := []
    bindings := kept ++ [{ name := "PPID", value := some (toString s.number) }]
    outputStatus := none, traps := s.traps.filter (·.2.isEmpty), loops := 0, own := true
    number := s.nextNumber, parents := s.number :: s.parents, nextNumber := s.nextNumber + 1
    jobs := [], builtin := none, optionLetter := 0 }

/-- How a shell is called: which switches, and what they leave of the arguments. -/
structure Invocation where
  /-- The commands are an argument. -/
  command : Bool := false
  /-- The commands come from what can be read. -/
  input : Bool := false
  args : List String := []

/-- Turns the switches that a shell is called with. -/
def invocation (i : Invocation) : List String → Script Invocation
  | [] => return i
  | arg :: rest => do
    match arg.toList with
    | ['-', '-'] | ['-'] => return { i with args := rest }
    | '-' :: letters =>
      let own := letters.filter fun c => !"csil".toList.contains c
      let i := { i with
        command := i.command || letters.contains 'c', input := i.input || letters.contains 's' }
      if ← turnLetters true own then
        match rest with
        | name :: rest =>
          turnNamed true name
          invocation i rest
        | [] => return i
      else invocation i rest
    | '+' :: letters =>
      let _ ← turnLetters false letters
      invocation i rest
    | _ => return { i with args := arg :: rest }

/-- A shell from its start to its end. -/
def shell (self : Runner) (name : String) (args : List String) : Script Unit := do
  let i ← invocation {} args
  let start (name : String) (args : List String) (text : List Char) : Script Unit := do
    modify fun s => { s with name, args, line := 1 }
    toTheEnd (runTrap self) (runText self false text)
  match i.command, i.args with
  | true, [] => fatal "-c requires an argument"
  | true, text :: args => start (args.headD name) args.tail text.toList
  | false, path :: args =>
    if i.input then start name (path :: args) (← readAll 0)
    else
      match ← content path with
      | .ok text => start path args text
      | .error .isFolder => setStatus 0
      | .error fault =>
        fatal ("cannot open " ++ path ++ ": " ++ openFault .read fault)
  | false, [] => start name [] (← readAll 0)

/-- Runs something in a process of its own. The shell tells which signal it dies of. -/
def child (name : String) (run : Script Unit) : Script Unit := do
  let signal? ← runFrom (childState (← get) name) run
  if let some text := signal?.bind deathText? then say 2 (text ++ "\n")

/-- The program that a script asks for in its first line, and the argument it gives to it. -/
def interpreter? (text : List Char) : Option (String × List String) :=
  match text with
  | '#' :: '!' :: rest =>
    let isGap (c : Char) : Bool := c = ' ' || c = '\t'
    let line := (rest.takeWhile (· ≠ '\n')).dropWhile isGap
    let program := line.takeWhile (!isGap ·)
    let arg := ((line.drop program.length).dropWhile isGap).reverse.dropWhile isGap
    if program.isEmpty then none
    else some (String.ofList program, if arg.isEmpty then [] else [String.ofList arg.reverse])
  | _ => none

/-- What goes before a command that `env` runs. -/
structure EnvOptions where
  cleared : Bool := false
  removed : List String := []

def envOptions (o : EnvOptions) : List String → Except String (EnvOptions × List String)
  | "-i" :: rest | "-" :: rest => envOptions { o with cleared := true } rest
  | "-u" :: name :: rest => envOptions { o with removed := name :: o.removed } rest
  | "--" :: rest => .ok (o, rest)
  | arg :: rest =>
    match arg.toList with
    | '-' :: c :: _ => .error ("invalid option -- " ++ quote (String.ofList [c]))
    | _ => .ok (o, arg :: rest)
  | [] => .ok (o, [])

/-- Runs a program for a tool. -/
def runFor (tool : String) (run : String → List String → Script Unit) (args : List String) :
    Script Unit := do
  match args with
  | [] => setStatus 0
  | name :: args =>
    match ← findProgram name with
    | .ok path => run path args
    | .error missing =>
      report tool (quote name ++ ": " ++ missing.report)
      setStatus missing.status

/-- Runs a program with other variables. -/
def env (run : String → List String → Script Unit) (args : List String) : Script Unit := do
  match envOptions {} args with
  | .error what => misuse "env" what 125
  | .ok (o, args) =>
    let before := (← get).bindings
    modify fun s => { s with bindings := s.bindings.filter fun v =>
      !(o.cleared || o.removed.contains v.name) }
    let settings := args.takeWhile (·.toList.contains '=')
    for setting in settings do
      let name := String.ofList (setting.toList.takeWhile (· ≠ '='))
      let value := String.ofList (setting.toList.drop (name.length + 1))
      setVariable { name, value := some value, exported := true }
    setStatus 0
    let rest := args.drop settings.length
    if rest.isEmpty then listExported
    else if (← lookup? "PATH").isNone then
      setVariable { name := "PATH", value := some (":".intercalate toolFolders) }
    runFor "env" run rest
    modify fun s => { s with bindings := before }

/-- Runs a command with words that are read. -/
def eachWord (run : String → List String → Script Unit) (args : List String) : Script Unit := do
  let words := (Text.splitOn '\n' (← readAll 0)).flatMap fun line =>
    (Text.splitOn ' ' (line.map fun c => if c = '\t' then ' ' else c)).filter (!·.isEmpty)
  let words := words.map String.ofList
  let wanted := !words.isEmpty || args.head? ≠ some "-r"
  let (single, args) : Nat × List String := match args with
    | "-r" :: rest => (words.length, rest)
    | "-n" :: count :: rest => ((Text.natural? count.toList).getD words.length, rest)
    | rest => (words.length, rest)
  let args := if args.isEmpty then ["echo"] else args
  let rec go (worst : Nat) : Nat → List String → Script Nat
    | 0, _ => return worst
    | n + 1, words => do
      runFor "xargs" run (args ++ words.take single)
      let status := (← get).status
      let worst := if status = 0 then worst else if status < 126 then 123 else status
      let rest := words.drop single
      if rest.isEmpty then return worst else go worst n rest
  if wanted then setStatus (← go 0 (words.length + 1) words) else setStatus 0

/-- Runs a tool that has nowhere to write, which it notices once it writes. -/
def unheard (tool : String) (work : Script Unit) : Script Unit := do
  let n ← openGather
  setChannel 1 (some (.gather n))
  afterwards work (setChannel 1 none)
  if tool = "cat" then report tool "standard output: Bad file descriptor"
  else if !(← gatheredIn n).isEmpty then report tool "write error: Bad file descriptor"
  if tool = "cat" || !(← gatheredIn n).isEmpty then setStatus 1

/-- Runs a tool as a process. -/
def runTool (self : Runner) (run : String → List String → Script Unit) (tool : String)
    (args : List String) : Script Unit := do
  match tools.find? (·.1 = tool) with
  | some (_, work) => if (← channel? 1).isSome then work args else unheard tool (work args)
  | none =>
    match tool, args with
    | "env", args => env run args
    | "xargs", args => eachWord run args
    | "timeout", time :: args =>
      if isInterval time then runFor tool run args
      else misuse tool ("invalid time interval " ++ quote time) 125
    | "timeout", [] =>
      say 2 "Try 'timeout --help' for more information.\n"
      setStatus 125
    | "nice", "-n" :: _ :: args => runFor tool run args
    | "nice", [] =>
      setStatus 0
      say 1 "0\n"
    | "nohup", [] => misuse tool "missing operand" 125
    | "setsid", [] => misuse tool "no command specified"
    | "nice", args | "nohup", args | "setsid", args => runFor tool run args
    | tool, args => child tool (shell self tool args)

/-- Runs the program at a path, which may be a script that names another one. -/
def runProgram (self : Runner) : Nat → String → List String → Script Unit
  | 0, path, _ => do
    complain (path ++ ": not found")
    setStatus 127
  | n + 1, path, args => do
    match toolAt? path with
    | some tool => runTool self (runProgram self n) tool args
    | none =>
      match ← content path with
      | .error _ =>
        complain (path ++ ": not found")
        setStatus 127
      | .ok text =>
        match interpreter? text with
        | some (program, more) =>
          if (toolAt? program).isSome then runProgram self n program (more ++ path :: args)
          else
            complain (path ++ ": not found")
            setStatus 127
        | none => child "sh" (shell self "sh" ("--" :: path :: args))

/-- How many scripts may name one another. -/
def maxScripts : Nat := 8

/-- Runs a program that is looked for. -/
def program (self : Runner) (name : String) (args : List String) : Script Unit := do
  match ← findProgram name with
  | .ok path => runProgram self maxScripts path args
  | .error missing =>
    complain (name ++ ": " ++ missing.message)
    setStatus missing.status

/-- Runs a program in the place of the shell. -/
def exec (self : Runner) (args : List String) : Script Unit := do
  let (_, args) ← options "" "" args
  match args with
  | [] => setStatus 0
  | name :: args =>
    program self name args
    modify fun s => { s with traps := s.traps.filter (·.1 ≠ 0) }
    attend (runTrap self)
    throw (.exit (← get).status)

/-- Runs the commands of a file in the shell. -/
def source (self : Runner) (args : List String) : Script Unit := do
  match args with
  | [] => setStatus 0
  | name :: _ =>
    let d := (← get).disk
    let folders := (Text.splitOn ':' ((← value? "PATH").getD "").toList).map String.ofList
    let path? := if name.toList.contains '/' then some name
      else (folders.map fun folder => if folder.isEmpty then name else within folder name).find?
        fun path => d.isFile (pathOf path)
    match path? with
    | none => fatal (name ++ ": not found")
    | some path =>
      match ← content path with
      | .error fault => fatal ("cannot open " ++ path ++ ": " ++ openFault .read fault)
      | .ok text =>
        modify fun s => { s with builtin := some path }
        try runText self false text
        catch
          | .return => pure ()
          | stop => throw stop

end RouteSync.Rehearsal.Shell.Script
