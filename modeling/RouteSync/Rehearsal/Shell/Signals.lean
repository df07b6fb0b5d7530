import RouteSync.Rehearsal.Shell.State
import RouteSync.Text.Digits

/-! Signals: their names, what they do by themselves, and what traps make of them. -/
namespace RouteSync.Rehearsal.Shell

/-- The names of signals, in order of their numbers; number zero is the end of the shell. -/
def signalNames : List String :=
  ["EXIT", "HUP", "INT", "QUIT", "ILL", "TRAP", "ABRT", "BUS", "FPE", "KILL", "USR1", "SEGV",
    "USR2", "PIPE", "ALRM", "TERM", "16", "CHLD", "CONT", "STOP", "TSTP", "TTIN", "TTOU", "URG", "XCPU",
    "XFSZ", "VTALRM", "PROF", "WINCH", "IO", "PWR", "SYS", "32", "33", "RTMIN"] ++
  (List.range 15).map (fun i => "RTMIN+" ++ toString (i + 1)) ++
  (List.range 14).map (fun i => "RTMAX-" ++ toString (14 - i)) ++ ["RTMAX"]

/-- The number of a signal, by its number or by its name from some number on. -/
def signal? (least : Nat) (text : String) : Option Nat :=
  match Text.natural? text.toList with
  | some n => if n < signalNames.length then some n else none
  | none =>
    let upper := String.ofList (text.toList.map Char.toUpper)
    (signalNames.findIdx? (· = upper)).filter (least ≤ ·)

/-- Signals that do nothing by themselves. -/
def quietSignals : List Nat := [0, 17, 18, 23, 28]

/-- What is said of a process that died of a signal. -/
def deathText? (signal : Nat) : Option String :=
  let known := [(1, "Hangup"), (3, "Quit"), (4, "Illegal instruction"),
    (5, "Trace/breakpoint trap"), (6, "Aborted"), (7, "Bus error"), (8, "Floating point exception"), (9, "Killed"),
    (10, "User defined signal 1"), (11, "Segmentation fault"), (12, "User defined signal 2"),
    (14, "Alarm clock"), (15, "Terminated"), (16, "Stack fault"), (24, "CPU time limit exceeded"),
    (25, "File size limit exceeded"), (26, "Virtual timer expired"),
    (27, "Profiling timer expired"), (29, "I/O possible"), (30, "Power failure"),
    (31, "Bad system call")]
  match known.find? (·.1 = signal) with
  | some (_, text) => some text
  | none => if 34 ≤ signal then some ("Real-time signal " ++ toString (signal - 34)) else none

/-- A text in quotes, from which the shell reads it again. -/
def singleQuotes : Nat → List Char → List Char
  | 0, _ => []
  | n + 1, cs =>
    let plain := cs.takeWhile (· ≠ '\'')
    let rest := cs.drop plain.length
    let marks := rest.takeWhile (· = '\'')
    let first := '\'' :: plain ++ ['\'']
    if marks.isEmpty then first
    else
      let shown := first ++ '"' :: marks ++ ['"']
      match rest.drop marks.length with
      | [] => shown
      | rest => shown ++ singleQuotes n rest

def quotedText (text : String) : String :=
  String.ofList (singleQuotes (text.length + 1) text.toList)

namespace Script

/-- Sends a signal to a process, if there is one of that number. -/
def send (target signal : Nat) : Script Bool := do
  let s ← get
  if target = s.number || s.parents.contains target then
    if signal ≠ 0 then set { s with signals := s.signals ++ [(target, signal)] }
    return true
  else return target ≤ 1 || s.jobs.any (·.1 = target)

/-- Whether a signal ends the shell at once. -/
def isDeadly (s : State) (signal : Nat) : Bool :=
  signal = 9 || signal = 19 || ((get? signal s.traps).isNone && !quietSignals.contains signal)

/-- Ends the shell by the first signal for it that nothing keeps from doing so. -/
def perish : Script Unit := do
  let s ← get
  if s.own then
    if let some (_, signal) := s.signals.find? fun (target, signal) =>
        target = s.number && isDeadly s signal then
      throw (.killed signal)

/-- Deals with the signals that came for the shell, for which it may have commands. -/
def attend (run : String → Script Unit) : Script Unit := do
  perish
  let s ← get
  if s.own then
    let (mine, others) := s.signals.partition (·.1 = s.number)
    set { s with signals := others }
    for (_, signal) in mine do
      if let some command := get? signal (← get).traps then
        if !command.isEmpty then
          let status := (← get).status
          run command
          setStatus status

/-- Runs something up to its end, and then the command that is set for the end. -/
def toTheEnd (run : String → Script Unit) (body : Script Unit) : Script Unit := do
  try body
  catch
    | .killed signal => throw (.killed signal)
    | .exit status | .fault status => setStatus status
    | _ => pure ()
  let s ← get
  match get? 0 s.traps with
  | some command =>
    set { s with traps := s.traps.filter (·.1 ≠ 0) }
    if !command.isEmpty then
      run command
      setStatus s.status
  | none => pure ()

/-- All traps, in order of their signals. -/
def listTraps : Script Unit := do
  let traps := (← get).traps
  for (name, signal) in signalNames.zipIdx do
    if let some command := get? signal traps then
      say 1 ("trap -- " ++ quotedText command ++ " " ++ name ++ "\n")

end Script
end RouteSync.Rehearsal.Shell
