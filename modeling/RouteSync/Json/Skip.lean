import RouteSync.Json.Number
import RouteSync.Json.Text

/-! Values that nobody asked for. They may nest to any depth. -/
namespace RouteSync.Json

inductive Bracket where
  | list | object
  deriving DecidableEq, Inhabited

def Bracket.close : Bracket → Char
  | .list => ']'
  | .object => '\x7d'

def skipScalar (s : Sign) : Reader Unit :=
  match s with
  | some 'n' => word "null".toList
  | some 't' => word "true".toList
  | some 'f' => word "false".toList
  | some '"' => skipText
  | some '-' => skipNumber
  | s => if (digit? s).isSome then skipNumber else throw .malformed

/-- A name in quotes and a colon. -/
def skipName : Reader Unit := do
  if (← peek) ≠ some '"' then throw .malformed
  skipText
  expect ':'

/-- What may come next: a value, the inside of brackets just opened, or what follows a value. -/
inductive Due where
  | value | first | more
  deriving DecidableEq, Inhabited

/-- Skips on until the brackets around the place are closed, innermost first. -/
def skipOn (around : List Bracket) (due : Due) : Nat → List Sign → Except Fault (List Sign)
  | 0, _ => .error .truncated
  | steps + 1, input =>
    match due, around with
    | .value, around =>
      match peek input with
      | .error e => .error e
      | .ok (some '[', input) => skipOn (.list :: around) .first steps input.tail
      | .ok (some '\x7b', input) => skipOn (.object :: around) .first steps input.tail
      | .ok (s, input) =>
        match skipScalar s input with
        | .error e => .error e
        | .ok (_, rest) => skipOn around .more steps rest
    | _, [] => .ok input
    | due, bracket :: outer =>
      match peek input with
      | .error e => .error e
      | .ok (s, input) =>
        if s = some bracket.close then skipOn outer .more steps input.tail
        else if due = .more ∧ s ≠ some ',' then .error .malformed
        else
          let entry := if due = .more then input.tail else input
          match (if bracket = .object then skipName else pure ()) entry with
          | .error e => .error e
          | .ok (_, rest) => skipOn around .value steps rest

/-- Of two steps at least one takes a sign off, so `steps` may be the document's length. -/
def skipValue (steps : Nat) : Reader Unit := fun input =>
  (skipOn [] .value (2 * steps + 2) input).map fun rest => ((), rest)

end RouteSync.Json
