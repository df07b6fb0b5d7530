import RouteSync.Toml.Number
import RouteSync.Toml.Tables

/-! Reading a whole document. -/
namespace RouteSync.Toml

/-- Arrays and tables in braces may not nest deeper. -/
def maxDepth : Nat := 79

def word (text : String) (v : Value) : Reader Value := fun input =>
  orFail (.of "string" ["`\"`", "`'`"]) ((keyword? text input).map fun rest => (v, rest)) input

def openArray : Cause := .of "array" ["`]`"]

/-- The items of an array after its opening bracket, those read so far last first. -/
def arrayItems (item : Reader Value) (steps : Nat) (done : List Value) : Nat → Reader Value
  | 0 => fail openArray
  | more + 1 => do
    skipBlanks steps
    if (← get).head? = some ']' then
      char ']' openArray
      return .array done.reverse
    let v ← item
    skipBlanks steps
    match ← get with
    | ',' :: rest => set rest; arrayItems item steps (v :: done) more
    | ']' :: rest => set rest; return .array (v :: done).reverse
    | _ => fail openArray

/-- A value with its place. -/
def placed (item : Reader Value) : Reader Value := do
  let left := (← get).length
  return .placed left (← item)

/-- What a reader of tables gives, which knows nothing of places. -/
def lift {α : Type} (r : Result α) : Reader α := fun input =>
  match r with
  | .ok a => .ok (a, input)
  | .error cause => fail cause input

/-- A key has no value. -/
def noSeparator : Cause := { next := ["`.`", "`=`"] }

/-- A key, its separator and its value, with spaces around the value. -/
def keyValue (item : Reader Value) (steps : Nat) : Reader (List String × String × Value) := do
  let (path, last) ← key steps
  match ← get with
  | '=' :: rest => set rest
  | _ => fail noSeparator
  skipSpaces
  return (path, last, ← placed item)

def openBraces : Cause := .of "inline table" ["`\x7d`"]

/-- The entries of a table after its opening brace. -/
def braceEntries (item : Reader Value) (steps : Nat) (done : Entries) : Nat → Reader Value
  | 0 => fail openBraces
  | more + 1 => do
    let (path, last, v) ← keyValue item steps
    let done ← lift (addValue none done path last v)
    skipSpaces
    match ← get with
    | ',' :: rest => set rest; braceEntries item steps done more
    | '\x7d' :: rest => set rest; return .table .braces done
    | _ => fail openBraces

/-- A value without brackets or braces. -/
def scalar (steps : Nat) : Reader Value := fun input =>
  match input with
  | '"' :: _ | '\'' :: _ => do
    let (s, rest) ← text steps input
    return (.string s, rest)
  | 't' :: _ => word "true" (.bool true) input
  | 'f' :: _ => word "false" (.bool false) input
  | c :: _ => if startsNumber c then numberOrMoment input else fail noText input
  | [] => fail noText input
where
  startsNumber (c : Char) : Bool := c.isDigit || "+-._in".toList.contains c

/-- The entries after an opening brace, which may be none. -/
def braced (item : Reader Value) (steps : Nat) : Reader Value := do
  skipSpaces
  match ← get with
  | '\x7d' :: rest => set rest; return .table .braces []
  | _ => braceEntries item steps [] (steps + 1)

/-- A value in which so many brackets and braces may nest. -/
def value (steps : Nat) : Nat → Reader Value
  | 0 => scalar steps
  | depth + 1 => do
    match ← get with
    | '[' :: rest => set rest; arrayItems (value steps depth) steps [] (steps + 1)
    | '\x7b' :: rest => set rest; braced (value steps depth) steps
    | _ => scalar steps

/-- A header in single or double brackets. -/
def header (d : Draft) (steps : Nat) : Reader Draft := do
  let what := "table header"
  let left := (← get).length
  char '[' (.of what)
  let repeated := (← get).head? = some '['
  if repeated then char '[' (.of what)
  let (path, last) ← key steps
  let unclosed : Cause := .of what ["`.`", if repeated then "`]]`" else "`]`"]
  char ']' unclosed
  if repeated then char ']' unclosed
  finishLine (some what)
  lift (if repeated then d.openRepeated left path last else d.openTable left path last)

/-- A key with its value on a line of its own. -/
def assignment (d : Draft) (steps : Nat) : Reader Draft := do
  let (path, last, v) ← keyValue (value steps maxDepth) steps
  finishLine none
  lift (d.add path last v)

def expressions (steps : Nat) (d : Draft) : Nat → Reader Draft
  | 0 => fail {}
  | more + 1 => do
    skipSpaces
    match ← get with
    | [] => return d
    | '#' :: _ => finishLine none; expressions steps d more
    | '[' :: _ => expressions steps (← header d steps) more
    | input =>
      match lineEnd? input with
      | some rest => set rest; expressions steps d more
      | none => expressions steps (← assignment d steps) more

/-- The byte order mark that may come first. -/
def dropMark : List Char → List Char
  | '\ufeff' :: rest => rest
  | rest => rest

/-- The entries of a document. -/
def document (s : String) : Except Fault Entries := do
  let input := dropMark s.toList
  let steps := input.length + 1
  let (d, _) ← expressions steps {} steps input
  d.close.mapError (⟨·, d.left⟩)

end RouteSync.Toml
