import RouteSync.Rehearsal.Shell.State

/-! How tools take their arguments, and what they say about faults. -/
namespace RouteSync.Rehearsal.Shell

/-- The letters that were given, each with its value if it has one, and the other arguments. -/
structure Options where
  letters : List (Char × String) := []
  operands : List String := []

namespace Options

def has (o : Options) (letter : Char) : Bool := o.letters.any (·.1 = letter)

def value? (o : Options) (letter : Char) : Option String :=
  (o.letters.filter (·.1 = letter)).getLast?.map (·.2)

/-- Which letters a tool knows, and which of them take a value. -/
structure Known where
  plain : String := ""
  valued : String := ""
  /-- The letters that long names stand for. -/
  long : List (String × Char) := []

inductive Taken where
  | letters (found : List (Char × String))
  /-- A letter whose value is the next argument. -/
  | wants (found : List (Char × String)) (letter : Char)
  | unknown (text : String)

/-- The letters of one argument. -/
def takeLetters (k : Known) : List Char → Taken
  | [] => .letters []
  | c :: rest =>
    if k.valued.toList.contains c then
      if rest.isEmpty then .wants [] c else .letters [(c, String.ofList rest)]
    else if k.plain.toList.contains c then
      match takeLetters k rest with
      | .letters found => .letters ((c, "") :: found)
      | .wants found letter => .wants ((c, "") :: found) letter
      | .unknown text => .unknown text
    else .unknown ("invalid option -- '" ++ String.ofList [c] ++ "'")

/-- Takes options and operands in any order; two hyphens end the options. -/
def take (k : Known) (o : Options) : List String → Except String Options
  | [] => .ok o
  | "--" :: rest => .ok { o with operands := o.operands ++ rest }
  | arg :: rest =>
    match arg.toList with
    | '-' :: '-' :: name =>
      let text := String.ofList (name.takeWhile (· ≠ '='))
      match k.long.find? (·.1 = text) with
      | some (_, letter) =>
        let value := String.ofList ((name.dropWhile (· ≠ '=')).drop 1)
        take k { o with letters := o.letters ++ [(letter, value)] } rest
      | none => .error ("unrecognized option '" ++ arg ++ "'")
    | '-' :: c :: cs =>
      match takeLetters k (c :: cs), rest with
      | .letters found, rest => take k { o with letters := o.letters ++ found } rest
      | .wants found letter, value :: rest =>
        take k { o with letters := o.letters ++ found ++ [(letter, value)] } rest
      | .wants _ letter, [] =>
        .error ("option requires an argument -- '" ++ String.ofList [letter] ++ "'")
      | .unknown text, _ => .error text
    | _ => take k { o with operands := o.operands ++ [arg] } rest

end Options

namespace Script

/-- What a tool says on the second number, after its name. -/
def report (tool what : String) : Script Unit := say 2 (tool ++ ": " ++ what ++ "\n")

/-- A fault in the arguments of a tool. -/
def misuse (tool what : String) (status : Nat := 1) : Script Unit := do
  report tool (what ++ "\nTry '" ++ tool ++ " --help' for more information.")
  setStatus status

/-- Runs a tool with its options; it has succeeded unless it says otherwise. -/
def withOptions (tool : String) (k : Options.Known) (args : List String)
    (run : Options → Script Unit) (faultStatus : Nat := 1) : Script Unit :=
  match Options.take k {} args with
  | .error what => misuse tool what faultStatus
  | .ok o => do
    setStatus 0
    run o

/-- What keeps a tool from a file. -/
def faultText : Disk.Fault → String
  | .notFound | .nullInName => "No such file or directory"
  | .notFolder => "Not a directory"
  | .isFolder => "Is a directory"
  | .nameTooLong => "File name too long"
  | .noRoom => "No space left on device"
  | .notText => "Invalid argument"

def quote (name : String) : String := "'" ++ name ++ "'"

def entry (path : String) : Script (Except Disk.Fault Disk.Entry) :=
  return (← get).disk.find (pathOf path)

/-- The text of a file, or of what can be read under number zero where a hyphen stands. -/
def content (path : String) : Script (Except Disk.Fault (List Char)) := do
  if path = "-" || path = "/dev/stdin" then return .ok (← readAll 0)
  else if path = "/dev/null" then return .ok []
  else return (← get).disk.read (pathOf path) |>.map ofBytes

/-- Does something with every text that is named, or with what can be read if none is. -/
def eachContent (tool : String) (paths : List String) (run : String → List Char → Script Unit)
    (faultStatus : Nat := 1) : Script Unit := do
  for path in (if paths.isEmpty then ["-"] else paths) do
    match ← content path with
    | .ok text => run path text
    | .error fault =>
      report tool (path ++ ": " ++ faultText fault)
      setStatus faultStatus

end Script

/-- The lines of a text, each without its end. -/
def linesOf (text : List Char) : List (List Char) :=
  let parts := Text.splitOn '\n' text
  if parts.getLast? = some [] then parts.dropLast else parts

/-- Lines with their ends. -/
def ofLines (lines : List (List Char)) : List Char := lines.flatMap (· ++ ['\n'])

end RouteSync.Rehearsal.Shell
