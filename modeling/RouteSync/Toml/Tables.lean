import RouteSync.Toml.Fault
import RouteSync.Toml.Value

/-! Putting keys and headers together to tables. No table is defined twice. -/
namespace RouteSync.Toml

abbrev Result := Except Cause

def Entries.get? (es : Entries) (key : String) : Option Value :=
  (es.find? (·.1 = key)).map (·.2.bare)

/-- Puts a value under a key, in its place if the key is there already. -/
def Entries.put (es : Entries) (key : String) (v : Value) : Entries :=
  if (es.get? key).isSome then es.map fun e => if e.1 = key then (key, v.inPlaceOf e.2) else e
  else es ++ [(key, v)]

def Entries.remove (es : Entries) (key : String) : Entries := es.filter (·.1 ≠ key)

/-- Whether a dotted key may go on into a table. -/
def Origin.isOpen : Origin → Bool
  | .passed | .dotted => true
  | _ => false

/-- A key leads into what is no table, or into one that is complete. -/
def noWayInto (key : String) : Cause :=
  { note := some ("dotted key `" ++ key ++ "` attempted to extend non-table type") }

/-- Changes the last table of a list. -/
def changeLast (f : Entries → Result Entries) : List Entries → Result (List Entries)
  | [] => .error {}
  | [es] => return [← f es]
  | es :: rest => return es :: (← changeLast f rest)

/-- Changes the table at the end of a dotted key. Missing tables on the way are made. -/
def alongKey (f : Origin → Entries → Result Entries) (origin : Origin) (es : Entries) :
    List String → Result Entries
  | [] => f origin es
  | key :: path =>
    match es.get? key with
    | none => return es.put key (.table .dotted (← alongKey f .dotted [] path))
    | some (.table inner entries) =>
      if inner.isOpen then return es.put key (.table inner (← alongKey f inner entries path))
      else throw (.repeated key none)
    | some (.tables all) =>
      return es.put key (.tables (← changeLast (fun last => alongKey f .header last path) all))
    | some _ => throw (noWayInto key)

/-- Changes the table that a header's last part belongs to. -/
def alongHeader (f : Entries → Result Entries) (es : Entries) : List String → Result Entries
  | [] => f es
  | key :: path =>
    match es.get? key with
    | none => return es.put key (.table .passed (← alongHeader f [] path))
    | some (.table .braces _) => throw (noWayInto key)
    | some (.table origin entries) =>
      return es.put key (.table origin (← alongHeader f entries path))
    | some (.tables all) =>
      return es.put key (.tables (← changeLast (fun last => alongHeader f last path) all))
    | some _ => throw (noWayInto key)

/-- Adds a value under a dotted key, the parts before the last in `path`. The last part goes into
a table that the same key made, or straight into the table at hand, which `table` names. -/
def addValue (table : Option (List String)) (es : Entries) (path : List String) (key : String)
    (v : Value) : Result Entries :=
  alongKey (fun origin inner =>
    if decide (origin = .dotted) = path.isEmpty || (inner.get? key).isSome then
      throw (.repeated key table)
    else return inner ++ [(key, v)]) .header es path

/-- A document under construction: the tables so far and the one whose keys are being read. -/
structure Draft where
  root : Entries := []
  /-- The header of the current table; none for the top of the document. -/
  header : List String := []
  repeated : Bool := false
  /-- How much of the document is left at the header. -/
  left : Nat := 0
  current : Entries := []

namespace Draft

def add (d : Draft) (path : List String) (key : String) (v : Value) : Result Draft :=
  return { d with current := ← addValue (some d.header) d.current path key v }

/-- Puts the current table in its place. -/
def close (d : Draft) : Result Entries :=
  match d.header.getLast? with
  | none => return d.current
  | some key =>
    let taken : Cause := .repeated key (some d.header.dropLast)
    let table : Value := .placed d.left (.table .header d.current)
    alongHeader (fun es =>
      match es.get? key, d.repeated with
      | none, false => return es.put key table
      | some (.table origin _), false =>
        if origin.isOpen then return es.put key table else throw taken
      | none, true => return es.put key (.tables [d.current])
      | some (.tables all), true => return es.put key (.tables (all ++ [d.current]))
      | _, _ => throw taken) d.root d.header.dropLast

/-- Starts a table. One that was only passed so far is taken up with what it holds. -/
def openTable (d : Draft) (left : Nat) (path : List String) (key : String) : Result Draft := do
  let root ← d.close
  let root ← alongHeader pure root path
  let taken ← takeUp root path
  let root ← alongHeader (fun es => return es.remove key) root path
  return ⟨root, path ++ [key], false, left, taken⟩
where
  /-- What the table holds already, if it may be taken up. -/
  takeUp (root : Entries) : List String → Result Entries
    | [] =>
      match root.get? key with
      | none => return []
      | some (.table .passed entries) => return entries
      | some _ => throw (.repeated key (some path))
    | part :: path =>
      match root.get? part with
      | some (.table _ entries) => takeUp entries path
      | some (.tables all) => takeUp (all.getLast?.getD []) path
      | _ => throw (noWayInto part)

/-- Starts one more table of a list. -/
def openRepeated (d : Draft) (left : Nat) (path : List String) (key : String) : Result Draft := do
  let root ← d.close
  let root ← alongHeader (fun es =>
    match es.get? key with
    | none => return es.put key (.tables [])
    | some (.tables _) => return es
    | some _ => throw (.repeated key (some path))) root path
  return ⟨root, path ++ [key], true, left, []⟩

end Draft
end RouteSync.Toml
