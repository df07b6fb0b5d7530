import RouteSync.Decode.Mismatch

/-! What can be wrong with a document, and the readers that find it. -/
namespace RouteSync.Json

open Decode

/-- A text of the document: a character, or a byte that belongs to none. -/
abbrev Sign := Option Char

inductive Fault where
  /-- The document is no JSON. -/
  | malformed
  /-- The document ends before its value does. -/
  | truncated
  /-- The document is JSON, but what stands at `path` is not what was asked for. -/
  | mismatch (path : List Step) (what : Mismatch)
  deriving DecidableEq, Inhabited

/-- A reader takes a value off the front of a document. The first fault from the left decides. -/
abbrev Reader := StateT (List Sign) (Except Fault)

def Reader.fail {α : Type} (what : Mismatch) : Reader α := throw (.mismatch [] what)

/-- Notes where the value that `r` reads stands. -/
def Reader.within {α : Type} (step : Step) (r : Reader α) : Reader α := fun input =>
  match r input with
  | .error (.mismatch path what) => .error (.mismatch (step :: path) what)
  | other => other

def isSpace (s : Sign) : Bool := s = some ' ' || s = some '\n' || s = some '\t' || s = some '\r'

/-- The first sign after white space, which is taken off. -/
def peek : Reader Sign := fun input =>
  match input.dropWhile isSpace with
  | [] => .error .truncated
  | s :: rest => .ok (s, s :: rest)

def advance : Reader Unit := fun input => .ok ((), input.tail)

/-- The first sign after white space must be `c`. -/
def expect (c : Char) : Reader Unit := do
  if (← peek) = some c then advance else throw .malformed

/-- The characters that must follow at once. -/
def word : List Char → Reader Unit
  | [], input => .ok ((), input)
  | _ :: _, [] => .error .truncated
  | c :: cs, s :: rest => if s = some c then word cs rest else .error .malformed

/-- Only white space may follow the value. -/
def atEnd : Reader Unit := fun input =>
  match input.dropWhile isSpace with
  | [] => .ok ((), [])
  | _ :: _ => .error .malformed

/-- The value of a whole document. -/
def document {α : Type} (r : Reader α) (input : List Sign) : Except Fault α :=
  match r input with
  | .error e => .error e
  | .ok (a, rest) =>
    match atEnd rest with
    | .error e => .error e
    | .ok _ => .ok a

end RouteSync.Json
