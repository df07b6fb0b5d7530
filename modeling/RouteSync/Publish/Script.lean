import RouteSync.Disk.Replace
import RouteSync.Log
import RouteSync.Text.Blank
import RouteSync.Text.Quoted

/-! The reload script: how it ends and what is said about it. -/
namespace RouteSync.Publish

inductive Ending where
  | exit (code : Nat)
  | signal (number : Nat)
  deriving DecidableEq, Inhabited

def signalNames : List String := ["SIGHUP", "SIGINT", "SIGQUIT", "SIGILL", "SIGTRAP", "SIGABRT",
  "SIGBUS", "SIGFPE", "SIGKILL", "SIGUSR1", "SIGSEGV", "SIGUSR2", "SIGPIPE", "SIGALRM", "SIGTERM",
  "SIGSTKFLT", "SIGCHLD", "SIGCONT", "SIGSTOP", "SIGTSTP", "SIGTTIN", "SIGTTOU", "SIGURG",
  "SIGXCPU", "SIGXFSZ", "SIGVTALRM", "SIGPROF", "SIGWINCH", "SIGIO", "SIGPWR", "SIGSYS"]

/-- The name of a signal by its number; the first one is number one. -/
def signalName? (number : Nat) : Option String :=
  if number = 0 then none else signalNames[number - 1]?

def Ending.text : Ending → String
  | .exit code => "exit status: " ++ toString code
  | .signal number =>
    "signal: " ++ toString number ++ ((signalName? number).map (" (" ++ · ++ ")")).getD ""

/-- What a script wrote and how it ended. -/
structure ScriptRun where
  output : List UInt8 := []
  errors : List UInt8 := []
  ending : Ending := .exit 0
  deriving DecidableEq, Inhabited

def ScriptRun.succeeded (r : ScriptRun) : Bool := r.ending = .exit 0

/-- What was written, errors last, without white space at the end. -/
def ScriptRun.said (r : ScriptRun) : String :=
  Text.trimmedEnd (Text.Utf8.lossy r.output ++ Text.Utf8.lossy r.errors)

/-- Runs the script at a path, told whether to drain. Nothing comes of one that cannot be
started. -/
abbrev Launcher := Disk.Path → Bool → Disk → Disk × Option ScriptRun

def ScriptRun.record (r : ScriptRun) (path : Disk.Path) (drain : Bool) : Log.Record :=
  let told := "command=" ++ path ++ " drain=" ++ toString drain ++ " output=" ++ Text.quoted r.said
  if r.succeeded then Log.info ("Reload script finished: " ++ told)
  else Log.error ("Reload script failed: " ++ told ++ " error=" ++ r.ending.text)

inductive Fault where
  | base (path : Disk.Path)
  /-- No file can be made in the folder. -/
  | create (folder : Disk.Path)
  | write
  | flush
  | mode
  /-- The new file lasts as long as this is kept. -/
  | move (path : Disk.Path) (draft : Disk.Location)
  | launch (script : Disk.Path)
  | ended (script : Disk.Path) (ending : Ending)
  deriving DecidableEq, Inhabited

def Fault.message : Fault → String
  | .base path => "Failed to read base HAProxy config " ++ path
  | .create folder => "Failed to create temporary config file in " ++ folder
  | .write => "Failed to write temporary config file"
  | .flush => "Failed to flush temporary config file"
  | .mode => "Failed to set config file permissions"
  | .move path _ => "Failed to move config file into place: " ++ path
  | .launch script => "Failed to execute reload script " ++ script
  | .ended script ending => "Reload script " ++ script ++ " exited with " ++ ending.text

/-- The new file that a fault keeps. -/
def Fault.draft? : Fault → Option Disk.Location
  | .move _ draft => some draft
  | _ => none

/-- What a step answers, what there is to say, and the disk after it. -/
structure Done where
  disk : Disk
  answer : Except Fault Unit
  log : List Log.Record := []

/-- The disk once the answer is let go of, and with it a new file that a fault kept. -/
def Done.settled (d : Done) : Disk :=
  match d.answer with
  | .ok _ => d.disk
  | .error fault => d.disk.release fault.draft?

/-- Runs the script. It fails unless the script ends well. -/
def reload (launch : Launcher) (path : Disk.Path) (drain : Bool) (d : Disk) : Done :=
  match launch path drain d with
  | (d, none) => ⟨d, .error (.launch path), []⟩
  | (d, some run) =>
    ⟨d, if run.succeeded then .ok () else .error (.ended path run.ending), [run.record path drain]⟩

end RouteSync.Publish
