/-! Why a settings document cannot be read, and where. -/
namespace RouteSync.Toml

/-- Why a document cannot be read. -/
structure Cause where
  /-- What is being read. -/
  what : Option String := none
  /-- What might have come next. -/
  next : List String := []
  note : Option String := none
  deriving DecidableEq, Inhabited

def Cause.of (what : String) (next : List String := []) : Cause := { what := some what, next }

/-- A key that is there already. The table is told if it is not one in braces. -/
def Cause.repeated (key : String) (table : Option (List String)) : Cause :=
  let place := match table with
    | none => ""
    | some [] => " in document root"
    | some path => " in table `" ++ ".".intercalate path ++ "`"
  { note := some ("duplicate key `" ++ key ++ "`" ++ place) }

def Cause.message (c : Cause) : String :=
  let next := if c.next.isEmpty then none else some ("expected " ++ ", ".intercalate c.next)
  "\n".intercalate ([c.what.map ("invalid " ++ ·), next, c.note].filterMap id)

/-- A cause and how many characters of the document are left where it is met. -/
structure Fault where
  cause : Cause
  left : Nat
  deriving DecidableEq, Inhabited

/-- Where in a document so many characters are left: the number of the line, its text, and the
number of the column. -/
def placeOf (document : List Char) (left : Nat) : Nat × String × Nat :=
  let before := document.take (document.length - left)
  let started := before.reverse.takeWhile (· ≠ '\n')
  let line := (document.drop (before.length - started.length)).takeWhile (· ≠ '\n')
  (before.count '\n' + 1, String.ofList line, started.length + 1)

/-- A message about a place in a document, with the line and a mark below it. -/
def report (document : String) (left : Nat) (message : String) : String :=
  let (number, line, column) := placeOf document.toList left
  let spaces (n : Nat) : String := String.ofList (List.replicate n ' ')
  let margin := spaces ((toString number).length + 1) ++ "|"
  "TOML parse error at line " ++ toString number ++ ", column " ++ toString column ++ "\n" ++
    margin ++ "\n" ++ toString number ++ " | " ++ line ++ "\n" ++
    margin ++ spaces column ++ "^\n" ++ message ++ "\n"

end RouteSync.Toml
