import RouteSync.Publish.Publisher
import RouteSync.Rehearsal.Shell.Launch
import RouteSync.Rehearsal.Workplace

/-! A publisher at work on a disk where others write too. -/
namespace RouteSync.Rehearsal

open Publish

structure Publishing where
  disk : Disk := freshDisk
  publisher : Publisher

namespace Publishing

def scriptPath : Disk.Path := "reload.sh"

/-- Every script notes first how it was called. -/
def callsPath : Disk.Path := "calls"

def scriptText (body : String) : String :=
  "#!/bin/sh\necho \"$\x7bIS_DRAINING:-unset\x7d\" >> " ++ callsPath ++ "\n" ++ body ++ "\n"

/-- Writes a file, or takes it away. -/
def lay (s : Publishing) (path : Disk.Path) (bytes? : Option (List UInt8)) : Publishing :=
  match bytes? with
  | some bytes => { s with disk := (s.disk.write path bytes).toOption.getD s.disk }
  | none =>
    match s.disk.isFile path, s.disk.locate path with
    | true, .ok place => { s with disk := s.disk.remove place }
    | _, _ => s

def setMode (s : Publishing) (path : Disk.Path) (mode : Nat) : Publishing :=
  match s.disk.file path, s.disk.locate path with
  | .ok file, .ok place => { s with disk := s.disk.put place (.file { file with mode }) }
  | _, _ => s

def layScript (s : Publishing) (body? : Option String) (mode : Nat) : Publishing :=
  let bytes? := body?.map fun body => Text.Utf8.bytes (scriptText body)
  (s.lay scriptPath bytes?).setMode scriptPath mode

def makeFolder (s : Publishing) (path : Disk.Path) : Publishing :=
  match s.disk.locate path with
  | .ok place =>
    if (s.disk.get? place).isNone then { s with disk := s.disk.put place .folder } else s
  | .error _ => s

/-- What a step of the publisher came to, and how long it waited. -/
structure Report where
  answer : Except Fault Unit := .ok ()
  log : List Log.Record := []
  waited : Nat := 0

def configure (s : Publishing) (snapshot : Snapshot) : Publishing × Report :=
  let p := s.publisher.configure .longest Shell.launch snapshot s.disk
  (⟨p.done.settled, p.after⟩, ⟨p.done.answer, p.done.log, 0⟩)

def drain (s : Publishing) : Publishing × Report :=
  let d := s.publisher.drain Shell.launch s.disk
  ({ s with disk := d.done.disk }, ⟨d.done.answer, d.done.log, d.wait⟩)

def reload (s : Publishing) (path : Disk.Path) (drain : Bool) : Publishing × Report :=
  let done := Publish.reload Shell.launch path drain s.disk
  ({ s with disk := done.disk }, ⟨done.answer, done.log, 0⟩)

def write (s : Publishing) (path : Disk.Path) (text : String) : Publishing × Report :=
  let done := writeFile .longest s.disk path text
  ({ s with disk := done.settled }, ⟨done.answer, done.log, 0⟩)

/-- The names in the workplace, in order. -/
def names (s : Publishing) : List String :=
  (s.disk.names s.disk.here).mergeSort fun a b => !decide (b < a)

/-- The lines of a text; what follows the last line end is one only if it is not empty. -/
def linesOf (text : String) : List String :=
  let parts := Text.splitOn '\n' text.toList
  (if parts.getLast? = some [] then parts.dropLast else parts).map String.ofList

/-- How the script was called so far. -/
def calls (s : Publishing) : List String :=
  match s.disk.readText callsPath with
  | .ok text => linesOf text
  | .error _ => []

end Publishing
end RouteSync.Rehearsal
