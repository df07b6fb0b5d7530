import RouteSync.Publish.Script
import RouteSync.Rehearsal.Shell.Run

/-! Starting the reload script: a script or one of the tools, which reads nothing and whose output
is gathered. -/
namespace RouteSync.Rehearsal.Shell

open Publish

/-- The variables that every script sees; one more tells that it is to drain. -/
def surroundings (drain : Bool) : List Variable :=
  let exported (name value : String) : Variable := { name, value := some value, exported := true }
  let plain (name value : String) : Variable := { name, value := some value }
  [exported "PATH" "/usr/local/sbin:/usr/local/bin:/usr/sbin:/usr/bin:/sbin:/bin",
    exported "HOME" "/root", plain "IFS" " \t\n", plain "OPTIND" "1", plain "PPID" "4241",
    plain "PS1" "# ", plain "PS2" "> ", plain "PS4" "+ "] ++ if drain then [exported "IS_DRAINING" "true"] else []

/-- The numbers under which output and errors are gathered. -/
def outputPlace : Nat := 0
def errorPlace : Nat := 1

/-- The state in which a script starts. -/
def startState (d : Disk) (drain : Bool) (name : String) : State where
  disk := d
  name
  bindings := surroundings drain
  gathered := [(outputPlace, []), (errorPlace, [])]
  opened := [(2, { source := .null })]
  nextSource := 3
  channels := [(0, .open 2), (1, .gather outputPlace), (2, .gather errorPlace)]
  line := 0

/-- The path of the program that is to be started: a name without a slash is looked for among the
tools. -/
def startPath? (d : Disk) (name : String) : Option String :=
  let path? := if name.toList.contains '/' then some name
    else (Script.toolFolders.map (Script.within · name)).find? fun path => (Script.toolAt? path).isSome
  path?.filter fun path => (Script.programAt d path).toBool

/-- The tool that runs the program at a path, and its arguments. A script has to name its own. -/
def starter? (d : Disk) : Nat → String → List String → Option (String × List String)
  | 0, _, _ => none
  | n + 1, path, args =>
    match Script.toolAt? path with
    | some tool => some (tool, args)
    | none => do
      let file ← (d.file (pathOf path)).toOption
      let (program, more) ← Script.interpreter? (ofBytes file.bytes)
      starter? d n program (more ++ path :: args)

/-- A shell takes the place of the process; any other tool runs in it. -/
def runStarter (tool : String) (args : List String) : Script Unit :=
  let self := Script.run Script.maxDepth
  if Script.shells.contains tool then do
    Script.setVariable { name := "PWD", value := some (Script.place (← get).disk), exported := true }
    Script.shell self tool args
  else Script.runTool self (Script.runProgram self Script.maxScripts) tool args

def endingOf : EStateM.Result Stop State Unit → Ending
  | .ok _ s => .exit (s.status % 256)
  | .error (.exit status) _ | .error (.fault status) _ => .exit (status % 256)
  | .error (.killed signal) _ => .signal signal
  | .error _ s => .exit (s.status % 256)

def finalState : EStateM.Result Stop State Unit → State
  | .ok _ s | .error _ s => s

/-- Runs the program at a path, if there is one that can be started. -/
def launch : Launcher := fun path drain d =>
  match (startPath? d (ofPath path)).bind fun path => starter? d Script.maxScripts path [] with
  | none => (d, none)
  | some (tool, args) =>
    let result := runStarter tool args (startState d drain tool)
    let s := finalState result
    let written (n : Nat) : List UInt8 :=
      toBytes ((Script.get? n s.gathered).getD []).reverse.flatten
    ({ s.disk with here := d.here },
      some ⟨written outputPlace, written errorPlace, endingOf result⟩)

end RouteSync.Rehearsal.Shell
