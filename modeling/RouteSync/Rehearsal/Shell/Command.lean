/-! The commands of a script. Every character of a script stands for one byte. -/
namespace RouteSync.Rehearsal.Shell

/-- What stands for a parameter. With `empty`, a parameter without a text counts as unset. -/
inductive Use where
  | value
  | length
  /-- The word, where the parameter is unset. -/
  | otherwise (empty : Bool)
  /-- The word, which the parameter then keeps. -/
  | assign (empty : Bool)
  /-- Nothing but the value will do. -/
  | required (empty : Bool)
  /-- The word, where the parameter is set. -/
  | instead (empty : Bool)
  /-- The value without a start, or without an end, that the word describes. -/
  | withoutStart (longest : Bool)
  | withoutEnd (longest : Bool)
  | unknown
  deriving DecidableEq, Inhabited

/-- How a file is opened. -/
inductive Opening where
  | read
  | write
  /-- Also over a file that is to be kept. -/
  | over
  | append
  | both
  deriving DecidableEq, Inhabited

mutual

/-- A piece of a word. A quoted one is neither split nor taken for a pattern. -/
inductive Part where
  | text (chars : List Char) (quoted : Bool)
  | param (name : String) (use : Use) (word : List Part) (quoted : Bool)
  /-- What commands write. -/
  | output (body : Option Command) (quoted : Bool)
  | sum (expression : List Part) (quoted : Bool)

inductive Redirection where
  | file (number : Nat) (opening : Opening) (path : List Part)
  /-- The same as under another number, or nothing. -/
  | same (number : Nat) (other : List Part)
  /-- A text of the script itself, by its place among all of them. -/
  | here (number : Nat) (place : Nat)

inductive Command where
  | simple (line : Nat) (settings : List (String × List Part)) (words : List (List Part))
      (redirections : List Redirection)
  | pipe (commands : List Command)
  | not (command : Command)
  | and (first second : Command)
  | or (first second : Command)
  | then (first second : Command)
  | background (command : Command)
  | within (line : Nat) (command : Command) (redirections : List Redirection)
  /-- In a shell of its own. -/
  | apart (command : Command)
  | branch (condition yes : Command) (no : Option Command)
  | loop (condition : Command) (whileTrue : Bool) (body : Command)
  /-- Without words, the script's own arguments. -/
  | each (line : Nat) (name : String) (words : Option (List (List Part))) (body : Command)
  | case (line : Nat) (word : List Part) (arms : List (List (List Part) × Option Command))
  | define (name : String) (body : Command)

end

instance : Inhabited Part := ⟨.text [] false⟩
instance : Inhabited Command := ⟨.simple 0 [] [] []⟩

abbrev Word := List Part

/-- The text of a word without quotes and parameters. -/
def Word.plain? (w : Word) : Option String :=
  w.foldr (fun part text? => match part, text? with
    | .text chars false, some text => some (String.ofList chars ++ text)
    | _, _ => none) (some "")

/-- The text of a word without parameters, quoted or not. -/
def Word.fixed? (w : Word) : Option String :=
  w.foldr (fun part text? => match part, text? with
    | .text chars _, some text => some (String.ofList chars ++ text)
    | _, _ => none) (some "")

def Part.isQuoted : Part → Bool
  | .text _ q | .param _ _ _ q | .output _ q | .sum _ q => q

def isNameStart (c : Char) : Bool := c.isAlpha || c = '_'

def isNameChar (c : Char) : Bool := c.isAlphanum || c = '_'

def isName (name : String) : Bool :=
  name.toList.head?.any isNameStart && name.toList.all isNameChar

end RouteSync.Rehearsal.Shell
