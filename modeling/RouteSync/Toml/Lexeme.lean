import RouteSync.Json.Text
import RouteSync.Toml.Fault
import RouteSync.Toml.Value

/-! The small parts of a document: blanks, comments, texts and keys. -/
namespace RouteSync.Toml

/-- A reader takes something off the front of a document. -/
abbrev Reader := StateT (List Char) (Except Fault)

def fail {α : Type} (cause : Cause) : Reader α := fun input => .error ⟨cause, input.length⟩

/-- What there is, or the failure of a reader that finds none. -/
def orFail {α : Type} (cause : Cause) (found : Option (α × List Char)) : Reader α := fun input =>
  match found with
  | some found => .ok found
  | none => fail cause input

def isSpace (c : Char) : Bool := c = ' ' || c = '\t'

/-- What may stand in a line. -/
def isPlain (c : Char) : Bool := c = '\t' || (0x20 ≤ c.toNat && c.toNat ≠ 0x7F)

def skipSpaces : Reader Unit := modify (·.dropWhile isSpace)

def char (c : Char) (cause : Cause) : Reader Unit := fun input =>
  match input with
  | d :: rest => if d = c then .ok ((), rest) else fail cause input
  | [] => fail cause input

/-- The rest after a line end, if one comes first. -/
def lineEnd? : List Char → Option (List Char)
  | '\n' :: rest => some rest
  | '\r' :: '\n' :: rest => some rest
  | _ => none

def skipComment : Reader Unit := modify (·.dropWhile isPlain)

def afterLine (what : Option String) : Cause := { what, next := ["newline", "`#`"] }

/-- The end of an expression: spaces, a comment, and the end of the line or of the document. -/
def finishLine (what : Option String) : Reader Unit := do
  skipSpaces
  if (← get).head? = some '#' then skipComment
  match ← get with
  | [] => return
  | input =>
    match lineEnd? input with
    | some rest => set rest
    | none => fail (afterLine what)

/-- Skips blanks, comments and line ends. -/
def skipBlanks : Nat → Reader Unit
  | 0 => pure ()
  | steps + 1 => do
    match ← get with
    | '#' :: _ => skipComment; skipBlanks steps
    | ' ' :: rest | '\t' :: rest => set rest; skipBlanks steps
    | input =>
      match lineEnd? input with
      | some rest => set rest; skipBlanks steps
      | none => pure ()

def letter? : Char → Option Char
  | 'b' => some '\x08'
  | 't' => some '\t'
  | 'n' => some '\n'
  | 'f' => some '\x0c'
  | 'r' => some '\r'
  | '"' => some '"'
  | '\\' => some '\\'
  | _ => none

def hexValue? (cs : List Char) : Option Nat :=
  cs.foldl (fun n? c => do return (← n?) * 16 + (← Json.hexDigit? (some c))) (some 0)

/-- A character by its number in `width` hexadecimal digits. -/
def numbered? (width : Nat) (cs : List Char) : Option (Char × List Char) := do
  if cs.length < width then none
  let n ← hexValue? (cs.take width)
  if n.isValidChar then some (Char.ofNat n, cs.drop width) else none

/-- What follows a backslash. -/
def escape? : List Char → Option (Char × List Char)
  | 'u' :: rest => numbered? 4 rest
  | 'U' :: rest => numbered? 8 rest
  | c :: rest => (letter? c).map fun c => (c, rest)
  | [] => none

def noEscape : Cause :=
  .of "escape sequence" ["`b`", "`f`", "`n`", "`r`", "`t`", "`u`", "`U`", "`\\`", "`\"`"]

/-- A text in double quotes after the first, the characters read so far last first. -/
def quotedBody (done : List Char) : Nat → Reader String
  | 0, input => fail (.of "basic string") input
  | _ + 1, [] => fail (.of "basic string") []
  | _ + 1, '"' :: rest => .ok (String.ofList done.reverse, rest)
  | steps + 1, '\\' :: rest =>
    match escape? rest with
    | some (c, rest) => quotedBody (c :: done) steps rest
    | none => fail noEscape rest
  | steps + 1, c :: rest =>
    if isPlain c then quotedBody (c :: done) steps rest else fail (.of "basic string") (c :: rest)

/-- A text in single quotes after the first. -/
def literalBody : Reader String := fun input =>
  let body := input.takeWhile fun c => isPlain c && c ≠ '\''
  match input.drop body.length with
  | '\'' :: rest => .ok (String.ofList body, rest)
  | rest => fail (.of "literal string") rest

/-- A line end right after the opening quotes does not count. -/
def dropFirstLine (input : List Char) : List Char := (lineEnd? input).getD input

/-- Where quotes stand in a text of many lines: three end it, with one or two that belong to it
before them, and fewer are part of it. -/
def quotesAt (quote : Char) (input : List Char) : Nat × Bool :=
  let run := (input.takeWhile (· = quote)).length
  if 3 ≤ run then (min (run - 3) 2, true) else (run, false)

def noLongText (escapes : Bool) : Cause :=
  .of (if escapes then "multiline basic string" else "multiline literal string")

/-- A text of many lines after its opening quotes. A backslash at the end of a line takes the line
end and the blanks after it away. -/
def longBody (quote : Char) (escapes : Bool) (done : List Char) : Nat → Reader String
  | 0, input => fail (noLongText escapes) input
  | _ + 1, [] => fail (noLongText escapes) []
  | steps + 1, c :: rest =>
    if c = quote then
      let (count, last) := quotesAt quote (c :: rest)
      let done := List.replicate count quote ++ done
      if last then .ok (String.ofList done.reverse, rest.drop (count + 2))
      else longBody quote escapes done steps (rest.drop (count - 1))
    else if escapes && c = '\\' then
      match lineEnd? (rest.dropWhile isSpace) with
      | some after =>
        longBody quote escapes done steps (skipLines steps after)
      | none =>
        match escape? rest with
        | some (c, rest) => longBody quote escapes (c :: done) steps rest
        | none => fail noEscape rest
    else
      match lineEnd? (c :: rest) with
      | some after => longBody quote escapes ('\n' :: done) steps after
      | none =>
        if isPlain c then longBody quote escapes (c :: done) steps rest
        else fail (noLongText escapes) (c :: rest)
where
  /-- Skips spaces and line ends. -/
  skipLines : Nat → List Char → List Char
    | 0, input => input
    | steps + 1, input =>
      let input := input.dropWhile isSpace
      match lineEnd? input with
      | some rest => skipLines steps rest
      | none => input

/-- What stands where a value should. -/
def noText : Cause := .of "string" ["`\"`", "`'`"]

/-- A text in quotes of any kind. -/
def text (steps : Nat) : Reader String := fun input =>
  match input with
  | '"' :: '"' :: '"' :: rest => longBody '"' true [] steps (dropFirstLine rest)
  | '\'' :: '\'' :: '\'' :: rest => longBody '\'' false [] steps (dropFirstLine rest)
  | '"' :: rest => quotedBody [] steps rest
  | '\'' :: rest => literalBody rest
  | _ => fail noText input

def isBareKeyChar (c : Char) : Bool := c.isAlphanum || c = '-' || c = '_'

/-- One part of a key: bare, or a text in one line. -/
def keyPart (steps : Nat) : Reader String := fun input =>
  match input with
  | '"' :: rest => quotedBody [] steps rest
  | '\'' :: rest => literalBody rest
  | input =>
    let bare := input.takeWhile isBareKeyChar
    if bare.isEmpty then fail (.of "key") input
    else .ok (String.ofList bare, input.drop bare.length)

/-- No key has so many parts. -/
def maxKeyParts : Nat := 80

/-- A key: parts joined by points, with spaces around each. -/
def keyParts (steps : Nat) (done : List String) : Nat → Reader (List String)
  | 0 => fail { note := some "recursion limit exceeded" }
  | more + 1 => do
    skipSpaces
    let part ← keyPart steps
    skipSpaces
    match ← get with
    | '.' :: rest => set rest; keyParts steps (part :: done) more
    | _ => return (part :: done).reverse

/-- The parts of a key before the last one, and the last one. -/
def key (steps : Nat) : Reader (List String × String) := do
  let parts ← keyParts steps [] (maxKeyParts - 1)
  return (parts.dropLast, parts.getLast?.getD "")

end RouteSync.Toml
