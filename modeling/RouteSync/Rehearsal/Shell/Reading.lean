import RouteSync.Rehearsal.Shell.Command

/-! Taking a script apart into its tokens, as far as that needs no look at its commands. -/
namespace RouteSync.Rehearsal.Shell

inductive Token where
  | finish
  | lineEnd
  | semicolon
  | ampersand
  | andThen
  | orElse
  | bar
  | open
  | close
  | endArm
  | keyword (name : String)
  | word (w : Word)
  /-- What stands before a file: the number it gets, and a sign. -/
  | redirect (number : Option Nat) (sign : String)
  deriving Inhabited

def Token.name : Token → String
  | .finish => "end of file"
  | .lineEnd => "newline"
  | .semicolon => "\";\""
  | .ampersand => "\"&\""
  | .andThen => "\"&&\""
  | .orElse => "\"||\""
  | .bar => "\"|\""
  | .open => "\"(\""
  | .close => "\")\""
  | .endArm => "\";;\""
  | .keyword name => "\"" ++ name ++ "\""
  | .word _ => "word"
  | .redirect _ _ => "redirection"

def Token.isKeyword (t : Token) (name : String) : Bool :=
  match t with
  | .keyword other => other = name
  | _ => false

/-- The words that have a meaning where a command may start. -/
def keywords : List String := ["!", "case", "do", "done", "elif", "else", "esac", "fi", "for", "if",
  "in", "then", "until", "while", "\x7b", "\x7d"]

/-- Whether a list of commands ends before a token. -/
def Token.endsList : Token → Bool
  | .finish | .close | .endArm => true
  | .keyword name =>
    ["do", "done", "elif", "else", "esac", "fi", "then", "\x7d"].contains name
  | _ => false

structure SyntaxFault where
  line : Nat
  message : String
  deriving DecidableEq, Inhabited

/-- A text of the script that starts after the current line. -/
structure Awaited where
  place : Nat
  last : List Char
  /-- Tabs at the start of its lines do not count. -/
  shifted : Bool
  quoted : Bool

structure Cursor where
  rest : List Char
  line : Nat
  /-- A token that is read but not used. -/
  pushed : Option Token := none
  last : Token := .lineEnd
  awaited : List Awaited := []
  /-- The place of the next text of the script. -/
  next : Nat := 0
  /-- The texts that are read, with their places. -/
  texts : List (Nat × Word) := []

abbrev Reading := StateT Cursor (Except SyntaxFault)

namespace Reading

def fail {α : Type} (message : String) : Reading α := fun c =>
  .error ⟨c.line, "Syntax error: " ++ message⟩

/-- The token that was read last is not what has to come here. -/
def unexpected {α : Type} (wanted : Option Token := none) : Reading α := do
  let found := (← get).last.name ++ " unexpected"
  fail (match wanted with
    | some t => found ++ " (expecting " ++ t.name ++ ")"
    | none => found)

/-- A backslash at the end of a line joins it to the next one. -/
def joined : List Char → Nat → List Char × Nat
  | '\\' :: '\n' :: rest, line => joined rest (line + 1)
  | rest, line => (rest, line)

/-- Goes past line ends that do not count. -/
def join : Reading Unit := modify fun c =>
  let (rest, line) := joined c.rest c.line
  { c with rest, line }

def peek : Reading (Option Char) := return (← get).rest.head?

/-- Goes past one character. -/
def skip : Reading Unit := modify fun c =>
  match c.rest with
  | '\n' :: rest => { c with rest, line := c.line + 1 }
  | _ :: rest => { c with rest }
  | [] => c

def skipMany : Nat → Reading Unit
  | 0 => pure ()
  | n + 1 => do skip; skipMany n

/-- The next character once lines are joined. -/
def peekJoined : Reading (Option Char) := do join; peek

/-- Goes past a character, if it comes next. -/
def skip? (c : Char) : Reading Bool := do
  if (← peekJoined) = some c then
    skip
    return true
  else return false

/-- Goes past all characters of a kind. -/
def takeWhile (p : Char → Bool) : Nat → Reading (List Char)
  | 0 => return []
  | n + 1 => do
    match ← peekJoined with
    | some c =>
      if p c then
        skip
        return c :: (← takeWhile p n)
      else return []
    | none => return []

def push (t : Token) : Reading Unit := modify fun c => { c with pushed := some t }

/-- Blanks, joined lines, and a comment. -/
def skipBlanks : Nat → Reading Unit
  | 0 => pure ()
  | n + 1 => do
    match ← peekJoined with
    | some ' ' | some '\t' => skip; skipBlanks n
    | some '#' => modify fun c => { c with rest := c.rest.dropWhile (· ≠ '\n') }
    | _ => pure ()

end Reading

/-- Signs that end a word. -/
def isSign (c : Char) : Bool := " \t\n;&|<>()".toList.contains c

/-- The signs that start with an angle bracket, and what is left after them. -/
def angleSign (cs : List Char) : String × List Char :=
  match cs with
  | '<' :: '<' :: '-' :: rest => ("<<-", rest)
  | '<' :: '<' :: rest => ("<<", rest)
  | '<' :: '&' :: rest => ("<&", rest)
  | '<' :: '>' :: rest => ("<>", rest)
  | '<' :: rest => ("<", rest)
  | '>' :: '>' :: rest => (">>", rest)
  | '>' :: '&' :: rest => (">&", rest)
  | '>' :: '|' :: rest => (">|", rest)
  | _ :: rest => (">", rest)
  | [] => ("", [])

/-- A part in front of others, which joins a text of its kind. -/
def joinPart (part : Part) (rest : List Part) : List Part :=
  match part, rest with
  | .text a p, .text b q :: more => if p = q then .text (a ++ b) q :: more else part :: rest
  | _, _ => part :: rest

/-- Joins neighbouring texts of the same kind. -/
def merged (parts : List Part) : List Part := parts.foldr joinPart []

/-- The name and the value of a word that sets a parameter. -/
def setting? (w : Word) : Option (String × Word) :=
  match w with
  | .text chars false :: rest =>
    let name := chars.takeWhile (· ≠ '=')
    if isName (String.ofList name) && name.length < chars.length then
      some (String.ofList name, .text (chars.drop (name.length + 1)) false :: rest)
    else none
  | _ => none

/-- The lines of a text up to its last one, and what follows. -/
def hereLines (a : Awaited) : Nat → List Char → List Char × List Char
  | 0, cs => ([], cs)
  | n + 1, cs =>
    if cs.isEmpty then ([], [])
    else
      let line := cs.takeWhile (· ≠ '\n')
      let rest := (cs.drop line.length).drop 1
      let shown := if a.shifted then line.dropWhile (· = '\t') else line
      if shown = a.last then ([], rest)
      else
        let (more, rest) := hereLines a n rest
        (shown ++ (if line.length < cs.length then ['\n'] else []) ++ more, rest)

end RouteSync.Rehearsal.Shell
