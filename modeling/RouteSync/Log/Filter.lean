import RouteSync.Log
import RouteSync.Regex.Parser
import RouteSync.Text.Blank
import RouteSync.Text.Split

/-! Which log records are shown: a list of directives such as `warn,tcp_router=debug`, and a
pattern that may follow them. -/
namespace RouteSync.Log

/-- Of the levels, the more severe have the lower numbers; nothing has number zero. -/
def Level.number : Level → Nat
  | .error => 1
  | .warn => 2
  | .info => 3
  | .debug => 4

/-- Shows records up to a number, of those whose target starts as told. -/
structure Directive where
  start : Option String
  limit : Nat
  deriving DecidableEq, Inhabited

def Directive.concerns (d : Directive) (target : String) : Bool :=
  d.start.all fun start => start.toList.isPrefixOf target.toList

/-- More than every level. -/
def noLimit : Nat := 5

def limitNames : List String := ["off", "error", "warn", "info", "debug", "trace"]

/-- The number of a level by its name, in letters of either case. -/
def limit? (name : String) : Option Nat :=
  limitNames.findIdx? (· = String.ofList (name.toList.map Char.toLower))

/-- A level alone holds for all targets, a target alone has no limit. -/
def Directive.ofText? (text : List Char) : Option Directive :=
  match (Text.splitOn '=' text).map String.ofList with
  | [only] =>
    match limit? only with
    | some limit => some ⟨none, limit⟩
    | none => some ⟨some only, noLimit⟩
  | [start, level] =>
    let level := Text.trimmed level
    if level.isEmpty then some ⟨some start, noLimit⟩
    else (limit? level).map fun limit => ⟨some start, limit⟩
  | _ => none

/-- A later directive for the same targets takes the place of the earlier one. -/
def addDirective (ds : List Directive) (d : Directive) : List Directive :=
  if ds.any (·.start = d.start) then ds.map fun e => if e.start = d.start then d else e
  else ds ++ [d]

structure Filter where
  directives : List Directive
  /-- What is to be found in every record. -/
  pattern : Option Regex := none
  deriving DecidableEq, Inhabited

namespace Filter

/-- Without directives errors are shown. -/
def ofDirectives (ds : List Directive) : List Directive :=
  if ds.isEmpty then [⟨none, Level.error.number⟩] else ds

def directivesOf (text : List Char) : List Directive :=
  let parts := ((Text.splitOn ',' text).map Text.trim).filter (· ≠ [])
  (parts.filterMap Directive.ofText?).foldl addDirective []

/-- Directives between commas, and after a slash a pattern, which counts only if it is one. A text
with more slashes says nothing. -/
def ofText (text : String) : Filter :=
  match Text.splitOn '/' text.toList with
  | [ds] => { directives := ofDirectives (directivesOf ds) }
  | [ds, pattern] => ⟨ofDirectives (directivesOf ds), Regex.ofText? (String.ofList pattern)⟩
  | _ => { directives := ofDirectives [] }

def length (d : Directive) : Nat := (d.start.map String.utf8ByteSize).getD 0

/-- The directive with the longest start of the target, the last of several. -/
def directiveFor? (f : Filter) (target : String) : Option Directive :=
  (f.directives.filter (·.concerns target)).foldl (fun best? d => match best? with
    | some best => if length d < length best then some best else some d
    | none => some d) none

def shows (f : Filter) (target : String) (r : Record) : Bool :=
  (f.directiveFor? target).any (fun d => r.level.number ≤ d.limit) &&
    f.pattern.all fun pattern => pattern.foundIn r.text

end Filter
end RouteSync.Log
