import RouteSync.Regex.CharSet

/-! Patterns of texts, and where in a text they are found. -/
namespace RouteSync

namespace Regex

/-- What a place between two characters may be asked for. -/
inductive Assertion where
  | textStart
  | textEnd
  | lineStart
  | lineEnd
  /-- The end of a line that may end in a carriage return and a line feed. -/
  | wideLineStart
  | wideLineEnd
  /-- A word begins or ends; the kind of its characters is told. -/
  | boundary (word : CharSet)
  | noBoundary (word : CharSet)
  | wordStart (word : CharSet)
  | wordEnd (word : CharSet)
  /-- No word goes on to the left, or to the right. -/
  | freeLeft (word : CharSet)
  | freeRight (word : CharSet)
  deriving DecidableEq, Inhabited

end Regex

inductive Regex where
  | empty
  | char (set : Regex.CharSet)
  | place (a : Regex.Assertion)
  | then (a b : Regex)
  | or (a b : Regex)
  /-- At least `low` times, and at most so many times more if there is a bound. -/
  | times (r : Regex) (low : Nat) (more : Option Nat)
  deriving DecidableEq, Inhabited

namespace Regex

/-- Whether a place has the property, by the characters before and after it. -/
def Assertion.holds (a : Assertion) (before after : Option Char) : Bool :=
  let within (set : CharSet) (c : Option Char) : Bool := c.any set.contains
  match a with
  | .textStart => before.isNone
  | .textEnd => after.isNone
  | .lineStart => before.all (· = '\n')
  | .lineEnd => after.all (· = '\n')
  | .wideLineStart => before.all (· = '\n') || (before = some '\r' && after ≠ some '\n')
  | .wideLineEnd => after.all (· = '\r') || (after = some '\n' && before ≠ some '\r')
  | .boundary w => within w before ≠ within w after
  | .noBoundary w => within w before = within w after
  | .wordStart w => !within w before && within w after
  | .wordEnd w => within w before && !within w after
  | .freeLeft w => !within w before
  | .freeRight w => !within w after

/-- The character before a place, if there is one. -/
def before (text : Array Char) (i : Nat) : Option Char := if i = 0 then none else text[i - 1]?

/-- Every number once. -/
def distinct (xs : List Nat) : List Nat :=
  xs.foldl (fun seen x => if x ∈ seen then seen else x :: seen) []

/-- All that is reached from some places by up to `n` steps, the start included. -/
def reach (step : Nat → List Nat) : Nat → List Nat → List Nat → List Nat
  | 0, _, seen => seen
  | n + 1, front, seen =>
    let next := (distinct (front.flatMap step)).filter (· ∉ seen)
    if next.isEmpty then seen else reach step n next (next ++ seen)

/-- What is reached by exactly `n` steps. -/
def walk (step : Nat → List Nat) : Nat → List Nat → List Nat
  | 0, front => front
  | n + 1, front => if front.isEmpty then [] else walk step n (distinct (front.flatMap step))

/-- The places where a pattern that starts at `i` may end. -/
def ends (text : Array Char) : Regex → Nat → List Nat
  | .empty, i => [i]
  | .char set, i => if text[i]?.any set.contains then [i + 1] else []
  | .place a, i => if a.holds (before text i) text[i]? then [i] else []
  | .then a b, i => distinct ((ends text a i).flatMap fun j => ends text b j)
  | .or a b, i => distinct (ends text a i ++ ends text b i)
  | .times r low more, i =>
    let front := walk (fun j => ends text r j) low [i]
    reach (fun j => ends text r j) (more.getD (text.size + 1)) front front

/-- Whether a pattern is found anywhere in a text. -/
def foundIn (r : Regex) (text : String) : Bool :=
  let chars := text.toList.toArray
  (List.range (chars.size + 1)).any fun i => !(ends chars r i).isEmpty

def sequence : List Regex → Regex
  | [] => .empty
  | [r] => r
  | r :: rs => .then r (sequence rs)

/-- How many single characters a pattern amounts to when its repetitions are written out. -/
def size : Regex → Nat
  | .empty | .char _ | .place _ => 1
  | .then a b | .or a b => a.size + b.size
  | .times r low more => r.size * max 1 (low + more.getD 1)

end Regex
end RouteSync
