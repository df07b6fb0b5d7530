import RouteSync.Disk.Basic
import RouteSync.Regex.Parser

/-! Patterns of texts and paths: a star for any text, a question mark for any character, and
characters in brackets. -/
namespace RouteSync.Rehearsal.Shell

/-- A character of a word, and whether it was quoted. -/
structure Sign where
  char : Char
  quoted : Bool := false
  deriving DecidableEq, Inhabited

abbrev Glob := List Sign

namespace Glob

open Regex (CharSet)

def isActive (s : Sign) (c : Char) : Bool := s.char = c && !s.quoted

/-- A named class and what follows it. -/
def namedClass? (signs : Glob) : Option (CharSet × Glob) := do
  let (s, rest) ← Regex.posixItem? (signs.map Sign.char)
  return (s, signs.drop (signs.length - rest.length))

/-- The set in brackets after the first, and what follows the last. -/
def bracket (first : Bool) (done : CharSet) : Nat → Glob → Option (CharSet × Glob)
  | 0, _ | _ + 1, [] => none
  | n + 1, s :: rest =>
    if isActive s ']' && !first then some (done, rest)
    else
      match (if isActive s '[' then namedClass? (s :: rest) else none) with
      | some (set, after) => bracket false (done.union set) n after
      | none =>
        match rest with
        | hyphen :: high :: after =>
          if isActive hyphen '-' && !isActive high ']' then
            bracket false (done.union (.range s.char high.char)) n after
          else bracket false (done.union (.single s.char)) n rest
        | _ => bracket false (done.union (.single s.char)) n rest

/-- What a glob describes, the parts so far last first. -/
def parts (done : List Regex) : Nat → Glob → List Regex
  | 0, _ | _ + 1, [] => done.reverse
  | n + 1, s :: rest =>
    let single : List Regex := parts (.char (.single s.char) :: done) n rest
    if isActive s '*' then parts (.times (.char .any) 0 none :: done) n rest
    else if isActive s '?' then parts (.char .any :: done) n rest
    else if isActive s '[' then
      let (negated, inner) := match rest with
        | mark :: inner =>
          if isActive mark '!' || isActive mark '^' then (true, inner) else (false, rest)
        | [] => (false, rest)
      match bracket true .none (inner.length + 1) inner with
      | some (set, after) =>
        parts (.char (if negated then set.complement else set) :: done) n after
      | none => single
    else single

def regex (g : Glob) : Regex := Regex.sequence (parts [] (g.length + 1) g)

/-- Whether a glob describes a text as a whole. -/
def fits (g : Glob) (text : List Char) : Bool :=
  (g.regex.ends text.toArray 0).contains text.length

/-- A text without the shortest or the longest start that a glob describes. -/
def withoutStart (g : Glob) (longest : Bool) (text : List Char) : List Char :=
  let found := g.regex.ends text.toArray 0
  let best := if longest then found.max? else found.min?
  text.drop (best.getD 0)

/-- A text without the shortest or the longest end that a glob describes. -/
def withoutEnd (g : Glob) (longest : Bool) (text : List Char) : List Char :=
  let chars := text.toArray
  let starts := (List.range (text.length + 1)).filter fun i =>
    (g.regex.ends chars i).contains text.length
  let best := if longest then starts.min? else starts.max?
  text.take (best.getD text.length)

/-- Whether a word has to be held against paths at all. -/
def isActiveIn (g : Glob) : Bool :=
  g.any fun s => isActive s '*' || isActive s '?' || isActive s '['

def text (g : Glob) : String := String.ofList (g.map Sign.char)

/-- Whether a glob describes a name. A point at the start has to be written. -/
def describes (g : Glob) (name : List Char) : Bool :=
  (name.head? ≠ some '.' || g.head?.any (·.char = '.')) && g.fits name

end Glob
end RouteSync.Rehearsal.Shell
