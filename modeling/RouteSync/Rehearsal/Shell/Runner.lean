import RouteSync.Rehearsal.Shell.Grammar
import RouteSync.Rehearsal.Shell.Lookup
import RouteSync.Rehearsal.Shell.Redirect

/-! What runs commands by a runner that it is given: texts, parts of the shell on their own, builtins
and functions. -/
namespace RouteSync.Rehearsal.Shell

/-- How commands are run: whether somebody looks at how the command ends, and the command. -/
abbrev Runner := Bool → Command → Script Unit

namespace Script

/-- Runs the commands of a text line by line; tells whether there were any. -/
def runLines (self : Runner) (tested : Bool) : Nat → Bool → Cursor → Script Bool
  | 0, any, _ => return any
  | n + 1, any, c => do
    let s ← get
    match nextLine { c with next := s.nextText, texts := s.texts } with
    | .error fault =>
      set { s with line := fault.line }
      fatal fault.message
    | .ok (none, _) => return any
    | .ok (some command?, c) =>
      set { s with nextText := c.next, texts := c.texts, readLine := c.line }
      match command? with
      | some command =>
        self tested command
        runLines self tested n true c
      | none => runLines self tested n any c

/-- Runs a text in the shell that is under way. A text without commands succeeds. -/
def runText (self : Runner) (tested : Bool) (text : List Char) : Script Unit := do
  let s ← get
  if !(← runLines self tested (text.length + 2) false { rest := text, line := 1 }) then setStatus 0
  modify fun t => { t with line := s.line, readLine := s.readLine }

def runTrap (self : Runner) (command : String) : Script Unit := runText self false command.toList

/-- A failure that nobody looks at ends a strict shell. -/
def check (tested : Bool) : Script Unit := do
  let s ← get
  if s.switches.strict && !tested && s.status ≠ 0 then throw (.exit s.status)

/-- Runs something as a part of the shell on its own. -/
def part (self : Runner) (body : Script Unit) : Script Unit := apart (toTheEnd (runTrap self) body)

/-- What a part of the shell writes. -/
def capture (self : Runner) : Capture := fun body => do
  match body with
  | none => return []
  | some command =>
    let status := (← get).status
    let n ← openGather
    part self do
      setChannel 1 (some (.gather n))
      self false command
    modify fun s => { s with status, outputStatus := some s.status }
    perish
    gatheredIn n

/-- Runs a builtin by its name. Only the special ones end the shell by their faults. -/
def asNamed (name : String) (special : Bool) (run : Script Unit) : Script Unit := do
  let outer := (← get).builtin
  modify fun s => { s with builtin := some name }
  try run
  catch stop =>
    modify fun s => { s with builtin := outer }
    match stop with
    | .fault status => if special then throw stop else setStatus status
    | stop => throw stop
  modify fun s => { s with builtin := outer }

/-- How deep functions may call one another. -/
def maxCalls : Nat := 1000

/-- Runs a function: it has arguments of its own, and variables as far as it asks for them. -/
def callFunction (self : Runner) (tested : Bool) (body : Command) (args : List String) :
    Script Unit := do
  let s ← get
  if maxCalls ≤ s.locals.length then
    fatal ("Maximum function recursion depth (" ++ toString maxCalls ++ ") reached")
  set { s with args, locals := [] :: s.locals, loops := 0 }
  let finish : Script Unit := do
    restore ((← get).locals.headD [])
    modify fun t => { t with args := s.args, locals := s.locals, loops := s.loops }
  afterwards (try self tested body catch
    | .return => pure ()
    | stop => throw stop) finish

end Script
end RouteSync.Rehearsal.Shell
