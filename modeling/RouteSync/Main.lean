import RouteSync.Command.Startup
import RouteSync.Http.Offline

/-! The program: what it is told comes from the command line, the environment and two files. It has
no network of its own, so a start that needs a token fails. -/
namespace RouteSync

/-- Takes a file over from the real disk, if it can be read. -/
def takeOver (d : Disk) (path : Disk.Path) : IO Disk := do
  try
    let bytes ← IO.FS.readBinFile path
    return ((d.makeFolders path).write path bytes.toList).toOption.getD d
  catch _ => return d

/-- The files that a start looks at: the settings, and the base file they name. -/
def files (path : Disk.Path) : IO Disk := do
  let d ← takeOver {} path
  match (d.readText path).toOption.bind fun text => (Settings.parse text).toOption with
  | some s => takeOver d s.files.basePath
  | none => return d

end RouteSync

open RouteSync in
def main (args : List String) : IO UInt32 := do
  let path ← IO.getEnv "TCP_ROUTER_CONFIG"
  let filter ← IO.getEnv "TCP_ROUTER_LOG"
  let d ← match Command.Invocation.ofArgs args path with
    | .run path => files path
    | _ => pure {}
  let outcome := Command.run ⟨d, Http.offline, Net.alone⟩ { args, path, filter }
  IO.print outcome.output
  IO.eprint outcome.complaint
  for line in outcome.log do
    IO.eprintln line.record.line
  return UInt32.ofNat (outcome.exit.getD 0)
