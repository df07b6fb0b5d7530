import RouteSync.Rehearsal.Shell.Builtins
import RouteSync.Rehearsal.Shell.Tools.Search
import RouteSync.Rehearsal.Shell.Tools.System

/-! The tools that scripts find on every machine. -/
namespace RouteSync.Rehearsal.Shell.Script

/-- What a tool prints of its arguments: without a sign for it, escapes mean nothing. -/
def plainEcho : List String → Bool → Bool → List Char
  | "-n" :: rest, _, escapes => plainEcho rest false escapes
  | "-e" :: rest, ended, _ => plainEcho rest ended true
  | "-E" :: rest, ended, _ => plainEcho rest ended false
  | args, ended, escapes =>
    let text := (" ".intercalate args).toList
    let (shown, cut) := if escapes then unescaped (text.length + 1) text else (text, false)
    if ended && !cut then shown ++ ['\n'] else shown

/-- A tool that does its work as the builtin of its name; its faults only set its status. -/
def asBuiltin (run : List String → Script Unit) (args : List String) : Script Unit := do
  try run args
  catch
    | .fault status => setStatus status
    | stop => throw stop

/-- A tool that cannot do without arguments. -/
def needing (tool what : String) (status : Nat) (run : List String → Script Unit)
    (args : List String) : Script Unit :=
  if args.isEmpty then misuse tool what status else asBuiltin run args

/-- The tools that need no other commands. -/
def tools : List (String × (List String → Script Unit)) :=
  [("true", fun _ => setStatus 0), ("false", fun _ => setStatus 1), ("sync", fun _ => setStatus 0),
    ("echo", fun args => do setStatus 0; sayChars (plainEcho args true false)),
    ("printf", needing "printf" "missing operand" 1 print), ("test", asBuiltin condition),
    ("[", fun args => if args.isEmpty then do report "[" "missing ']'"; setStatus 2
      else asBuiltin bracketCondition args),
    ("kill", asBuiltin kill), ("pwd", asBuiltin pwd), ("sleep", sleep), ("cat", cat),
    ("tac", reversedLines),
    ("cp", copyFiles), ("mv", moveFiles), ("rm", removeFiles), ("mkdir", makeFolders),
    ("rmdir", removeFolders), ("touch", touch), ("chmod", changeModes), ("ls", listFiles),
    ("grep", grep), ("sed", sed), ("head", head), ("tail", tail), ("wc", wc), ("sort", sort),
    ("uniq", uniq), ("cut", cutParts), ("tr", tr), ("tee", tee), ("basename", baseName),
    ("dirname", directoryName), ("seq", seq), ("cmp", cmp), ("stat", stat),
    ("printenv", printVariables), ("id", who), ("whoami", fun _ => do setStatus 0; say 1 "root\n"),
    ("date", date), ("ln", link),
    ("hostname", fun _ => do setStatus 0; say 1 "localhost\n"),
    ("uname", fun _ => do setStatus 0; say 1 "Linux\n"), ("realpath", fullPath "realpath"),
    ("readlink", fullPath "readlink"), ("mktemp", makeTemporary)]

/-- Where tools are found. -/
def toolFolders : List String := ["/bin", "/usr/bin"]

/-- Tools that run other commands: shells among them. -/
def shells : List String := ["sh", "dash", "bash"]

def runners : List String := shells ++ ["env", "nohup", "nice", "timeout", "xargs", "setsid"]

def isTool (name : String) : Bool := tools.any (·.1 = name) || runners.contains name

/-- The names on a path from the top, where two points lead back. -/
def namesDown (path : String) : List String :=
  ((Disk.Path.parts path).foldl (fun (names : List String) part =>
    if Disk.Path.isIdle part then names else if part = ".." then names.tail else part :: names)
    []).reverse

/-- The tool that a path leads to. -/
def toolAt? (path : String) : Option String :=
  let name := (Disk.Path.name? path).getD ""
  if isTool name && path.toList.head? = some '/' &&
      toolFolders.any (fun folder => namesDown (within folder name) = namesDown path) then some name
  else none

end RouteSync.Rehearsal.Shell.Script
