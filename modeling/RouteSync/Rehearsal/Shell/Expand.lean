import RouteSync.Rehearsal.Shell.Glob
import RouteSync.Rehearsal.Shell.Sum
import RouteSync.Text.Digits

/-! From the words of a command to its arguments. -/
namespace RouteSync.Rehearsal.Shell

/-- What an expansion consists of. -/
inductive Piece where
  /-- A soft character may end a field. -/
  | char (sign : Sign) (soft : Bool)
  /-- Quotes: there is a field here, even an empty one. -/
  | quotes
  /-- One argument ends here and another begins. -/
  | cut
  deriving DecidableEq, Inhabited

def piecesOf (text : String) (quoted soft : Bool) : List Piece :=
  text.toList.map fun c => .char ⟨c, quoted⟩ soft

/-- The signs of an expansion that is not split; a blank stands between arguments. -/
def signsOf (ps : List Piece) : Glob :=
  ps.filterMap fun
    | .char sign _ => some sign
    | .cut => some ⟨' ', false⟩
    | .quotes => none

def textOf (ps : List Piece) : String := (signsOf ps).text

/-- What a capture of commands gives: all that they write. -/
abbrev Capture := Option Command → Script (List Char)

namespace Script

/-- The letters of the switches that are on. -/
def letters (s : Switches) : String :=
  String.ofList ([(s.exportAll, 'a'), (s.strict, 'e'), (s.noPatterns, 'f'), (s.noClobber, 'C'),
    (s.noUnset, 'u'), (s.shown, 'x')].filterMap fun (on, c) => if on then some c else none)

/-- The value of a parameter that holds one text. -/
def parameter? (name : String) : Script (Option String) := do
  let s ← get
  match name with
  | "#" => return some (toString s.args.length)
  | "?" => return some (toString s.status)
  | "-" => return some (letters s.switches)
  | "$" => return some (toString s.number)
  | "!" => return s.jobs.head?.map fun (number, _) => toString number
  | "0" => return some s.name
  | name =>
    match Text.natural? name.toList with
    | some n => return s.args[n - 1]?
    | none => value? name

/-- The characters that fields are split at. -/
def separators : Script (List Char) := return ((← value? "IFS").getD " \t\n").toList

/-- All arguments in one text. -/
def allArgs : Script String := do
  let first := match ← separators with
    | c :: _ => String.ofList [c]
    | [] => ""
  return first.intercalate (← get).args

/-- A parameter's pieces, if it is set. -/
def value (name : String) (quoted soft : Bool) : Script (Option (List Piece)) := do
  let args := (← get).args
  if name = "@" || (name = "*" && !quoted) then
    let start := if quoted then [Piece.quotes] else []
    let shown := args.map fun arg => start ++ piecesOf arg quoted soft
    return some (List.intercalate [.cut] shown)
  else if name = "*" then return some (piecesOf (← allArgs) true false)
  else return (← parameter? name).map fun text => piecesOf text quoted soft

/-- The fault of a parameter that is not set. -/
def unset {α : Type} (name : String) (why : String := "parameter not set") : Script α :=
  fatal (name ++ ": " ++ why)

/-- A home folder in the place of a tilde. -/
def tilde (chars : List Char) : Script (List Char) := do
  match chars with
  | '~' :: rest =>
    let user := rest.takeWhile (· ≠ '/')
    if user.isEmpty then
      return match ← value? "HOME" with
        | some home => home.toList ++ rest
        | none => chars
    else if user = "root".toList then return "/root".toList ++ rest.drop 4
    else return chars
  | chars => return chars

mutual

/-- The pieces of a part. Only what is soft in it may end a field. -/
def pieces (capture : Capture) (soft : Bool) : Part → Script (List Piece)
  | .text chars quoted =>
    return if quoted then .quotes :: piecesOf (String.ofList chars) true false
      else piecesOf (String.ofList chars) false soft
  | .output body quoted => do
    let text := (← capture body).reverse.dropWhile (· = '\n')
    return piecesOf (String.ofList (text.reverse.filter (· ≠ '\x00'))) quoted (!quoted)
  | .sum expression quoted => do
    let text := textOf (← allPieces capture false expression)
    return piecesOf (toString (← Shell.sum text)) quoted (!quoted)
  | .param name use word quoted => do
    let found? ← value name quoted (!quoted)
    let missing := found?.isNone && (← get).switches.noUnset
    /- Whether there is a value, or one with something in it. -/
    let present (empty : Bool) : Option (List Piece) :=
      found?.filter fun ps => !empty || !(textOf ps).isEmpty
    let inner : Script (List Piece) := allPieces capture (!quoted) word
    match use with
    | .value => if missing then unset name else return found?.getD []
    | .length =>
      if missing then unset name
      else return piecesOf (toString (textOf (found?.getD [])).length) quoted (!quoted)
    | .otherwise empty =>
      match present empty with
      | some ps => return ps
      | none => inner
    | .instead empty => if (present empty).isSome then inner else return []
    | .assign empty =>
      match present empty with
      | some ps => return ps
      | none =>
        if !isName name then fatal (name ++ ": bad variable name")
        let text := textOf (← inner)
        assign name text
        return piecesOf text quoted (!quoted)
    | .required empty =>
      match present empty with
      | some ps => return ps
      | none =>
        let why := textOf (← inner)
        if why.isEmpty then
          unset name (if empty then "parameter not set or null" else "parameter not set")
        else unset name why
    | .withoutStart longest =>
      if missing then unset name
      let glob := signsOf (← inner)
      let text := textOf (found?.getD [])
      return piecesOf (String.ofList (glob.withoutStart longest text.toList)) quoted (!quoted)
    | .withoutEnd longest =>
      if missing then unset name
      let glob := signsOf (← inner)
      let text := textOf (found?.getD [])
      return piecesOf (String.ofList (glob.withoutEnd longest text.toList)) quoted (!quoted)
    | .unknown => fatal "Bad substitution"

def allPieces (capture : Capture) (soft : Bool) : List Part → Script (List Piece)
  | [] => return []
  | part :: parts => do
    let first ← pieces capture soft part
    return first ++ (← allPieces capture soft parts)

end

/-- The pieces of a word, with the home folder where a tilde starts it. -/
def wordPieces (capture : Capture) (w : Word) : Script (List Piece) := do
  match w with
  | .text chars false :: rest =>
    let first := piecesOf (String.ofList (← tilde chars)) false false
    return first ++ (← allPieces capture false rest)
  | w => allPieces capture false w

/-- The text of a word that is not split. -/
def text (capture : Capture) (w : Word) : Script String := return textOf (← wordPieces capture w)

end Script

/-- Fields under way: those that are done, last first, and the current one if it has begun. After
blanks, one more separator does not end another field. -/
structure Fields where
  done : List Glob := []
  current : Option Glob := none
  blank : Bool := false

namespace Fields

def close (f : Fields) : Fields :=
  match f.current with
  | some signs => ⟨signs.reverse :: f.done, none, f.blank⟩
  | none => f

def add (separators : List Char) (f : Fields) : Piece → Fields
  | .quotes => { f with current := some (f.current.getD []), blank := false }
  | .cut => { f.close with blank := false }
  | .char sign soft =>
    if soft && separators.contains sign.char then
      if isBlankByte sign.char then
        if f.current.isSome then { f.close with blank := true } else f
      else if f.current.isSome then { f.close with blank := false }
      else if f.blank then { f with blank := false }
      else { f with done := [] :: f.done }
    else { f with current := some (sign :: f.current.getD []), blank := false }

/-- The fields of an expansion. -/
def split (separators : List Char) (ps : List Piece) : List Glob :=
  (ps.foldl (add separators) {}).close.done.reverse

end Fields

/-- The parts of a glob between slashes. -/
def globParts (g : Glob) : List Glob :=
  g.foldr (fun s parts => match parts with
    | part :: rest => if s.char = '/' then [] :: part :: rest else (s :: part) :: rest
    | [] => [[s]]) [[]]

/-- The paths that go on from some others by a part. -/
def nextPaths (d : Disk) (last : Bool) (g : Glob) (starts : List String) : List String :=
  starts.flatMap fun start =>
    if g.isActiveIn then
      match d.locate (pathOf (if start.isEmpty then "." else start)) with
      | .ok place =>
        let names := ((d.names place).map ofPath).mergeSort fun a b => !decide (b < a)
        let names := names.filter fun name => g.describes name.toList
        let isFolder (name : String) : Bool :=
          d.get? (place ++ [pathOf name]) = some .folder
        (names.filter fun name => last || isFolder name).map (start ++ ·)
      | .error _ => []
    else
      let path := start ++ g.text
      if last && !g.isEmpty && (d.find (pathOf path)).toBool = false then [] else [path]

/-- The paths that a glob describes, in order; it stands for itself if there are none. -/
def paths (d : Disk) (g : Glob) : List String :=
  if g.isActiveIn then
    let rec go (starts : List String) : List Glob → List String
      | [] => starts
      | [part] => nextPaths d true part starts
      | part :: rest => go ((nextPaths d false part starts).map (· ++ "/")) rest
    match go [""] (globParts g) with
    | [] => [g.text]
    | found => found.mergeSort fun a b => !decide (b < a)
  else [g.text]

namespace Script

/-- The arguments that words come to. -/
def arguments (capture : Capture) : List Word → Script (List String)
  | [] => return []
  | w :: ws => do
    let fields := Fields.split (← separators) (← wordPieces capture w)
    let s ← get
    let first := fields.flatMap fun g => if s.switches.noPatterns then [g.text] else paths s.disk g
    return first ++ (← arguments capture ws)

end Script
end RouteSync.Rehearsal.Shell
