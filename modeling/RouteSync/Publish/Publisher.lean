import RouteSync.Clock.Duration
import RouteSync.Proxy.Render
import RouteSync.Publish.Script

/-! The publisher puts a snapshot before the proxy: it replaces the live file and has it loaded. -/
namespace RouteSync.Publish

structure Publisher where
  tls : Proxy.TlsPolicy := {}
  /-- The file that goes before the routes. -/
  basePath : Disk.Path
  livePath : Disk.Path
  scriptPath : Disk.Path
  drainTime : Clock.Duration := 0
  /-- The text that was last written and loaded without fault. -/
  applied : Option String := none
  deriving DecidableEq, Inhabited

/-- What a fault in the replacing of a file says of its path. -/
def Fault.ofReplace (path : Disk.Path) : Disk.ReplaceFault → Fault
  | .create => .create (Disk.Path.folder path)
  | .write => .write
  | .flush => .flush
  | .mode => .mode
  | .move draft => .move path draft

/-- Replaces the file at a path. -/
def writeFile (names : Disk.Naming) (d : Disk) (path : Disk.Path) (text : String) : Done :=
  match d.replace names path (Text.Utf8.bytes text) with
  | (d, .ok _) => ⟨d, .ok (), []⟩
  | (d, .error why) => ⟨d, .error (.ofReplace path why), []⟩

namespace Publisher

structure Published where
  after : Publisher
  done : Done

def unchanged : Log.Record := Log.debug "HAProxy configuration is unchanged."

def updated (path : Disk.Path) (count : Nat) : Log.Record :=
  Log.info ("HAProxy configuration was updated: " ++ toString count ++ " routes written to " ++
    path ++ ".")

/-- Writes a text and loads it. Only what was loaded counts as applied. -/
def apply (p : Publisher) (names : Disk.Naming) (launch : Launcher) (text : String) (count : Nat)
    (d : Disk) : Published :=
  let written := writeFile names d p.livePath text
  match written.answer with
  | .error fault => ⟨p, { written with answer := .error fault }⟩
  | .ok _ =>
    let loaded := reload launch p.scriptPath false written.disk
    match loaded.answer with
    | .error _ => ⟨p, loaded⟩
    | .ok _ =>
      ⟨{ p with applied := some text },
        { loaded with log := loaded.log ++ [updated p.livePath count] }⟩

/-- Serves a snapshot. The text that is applied already is neither written nor loaded again. -/
def configure (p : Publisher) (names : Disk.Naming) (launch : Launcher) (s : Snapshot) (d : Disk) :
    Published :=
  let rendering := p.tls.render s
  match d.readText p.basePath with
  | .error _ => ⟨p, ⟨d, .error (.base p.basePath), rendering.log⟩⟩
  | .ok base =>
    let text := base ++ rendering.text
    if p.applied = some text then ⟨p, ⟨d, .ok (), rendering.log ++ [unchanged]⟩⟩
    else
      let published := p.apply names launch text s.entries.length d
      { published with
        done := { published.done with log := rendering.log ++ published.done.log } }

def draining (time : Clock.Duration) : Log.Record :=
  Log.info ("Draining HAProxy for " ++ Clock.text time ++ "...")

/-- The time to wait after a script that was told to drain. -/
structure Drained where
  done : Done
  wait : Clock.Duration

def drain (p : Publisher) (launch : Launcher) (d : Disk) : Drained :=
  let loaded := reload launch p.scriptPath true d
  let wait := match loaded.answer with
    | .ok _ => p.drainTime
    | .error _ => 0
  ⟨{ loaded with log := draining p.drainTime :: loaded.log }, wait⟩

end Publisher
end RouteSync.Publish
