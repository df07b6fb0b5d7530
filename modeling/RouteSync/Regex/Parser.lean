import RouteSync.Regex.Basic

/-! Reading patterns. A text that is no pattern has no reading, whatever is wrong with it. -/
namespace RouteSync.Regex

/-- What letters in front of a pattern switch on or off. -/
structure Flags where
  /-- Letters of either case are the same. -/
  foldCase : Bool := false
  /-- Line ends count as text ends. -/
  lines : Bool := false
  /-- A point stands for a line feed too. -/
  dotAll : Bool := false
  /-- Carriage returns end lines too. -/
  wideEnds : Bool := false
  /-- White space means nothing, and a hash sign starts a comment. -/
  spaced : Bool := false
  /-- Classes reach beyond the first 128 characters. -/
  wide : Bool := true
  deriving DecidableEq, Inhabited

structure Cursor where
  rest : List Char
  /-- The names of groups so far. -/
  names : List (List Char) := []

abbrev Reading := StateT Cursor Option

namespace Reading

def fail {α : Type} : Reading α := fun _ => none

def require (condition : Bool) : Reading Unit := if condition then pure () else fail

def rest : Reading (List Char) := return (← get).rest

def goTo (rest : List Char) : Reading Unit := modify fun s => { s with rest }

def peek : Reading (Option Char) := return (← rest).head?

/-- The next character. -/
def next : Reading Char := do
  match ← rest with
  | c :: cs => goTo cs; return c
  | [] => fail

/-- Goes past a text, if it comes next. -/
def skip? (text : String) : Reading Bool := do
  let cs ← rest
  if text.toList.isPrefixOf cs then
    goTo (cs.drop text.length)
    return true
  else return false

def expect (c : Char) : Reading Unit := do require ((← next) = c)

end Reading

open Reading

/-- Without what means nothing: white space and comments. -/
def withoutSpace : Nat → List Char → List Char
  | 0, cs => cs
  | _ + 1, [] => []
  | n + 1, c :: cs =>
    if c = '#' then withoutSpace n (cs.dropWhile (· ≠ '\n'))
    else if Text.isBlank c then withoutSpace n cs
    else c :: cs

def skipSpace (f : Flags) : Reading Unit := do
  if f.spaced then
    let cs ← rest
    goTo (withoutSpace cs.length cs)

/-- The characters that have to follow a backslash to stand for themselves. -/
def isMeta (c : Char) : Bool := "\\.+*?()|[]\x7b\x7d^$#&-~".toList.contains c

/-- The characters that may follow a backslash to stand for themselves. -/
def isEscapable (c : Char) : Bool :=
  c.toNat < 128 && !c.isAlphanum && c ≠ '<' && c ≠ '>'

def hexValue? (c : Char) : Option Nat :=
  if c.isDigit then some (c.toNat - 48)
  else if 'a' ≤ c && c ≤ 'f' then some (c.toNat - 87)
  else if 'A' ≤ c && c ≤ 'F' then some (c.toNat - 55)
  else none

/-- The character under a number. -/
def charAt (n : Nat) : Reading Char := do
  require (n < 0xD800 || (0xDFFF < n && n ≤ 0x10FFFF))
  return Char.ofNat n

def hexNumber (digits : List Char) : Reading Nat := do
  require (!digits.isEmpty && digits.all fun c => (hexValue? c).isSome)
  return digits.foldl (fun n c => n * 16 + (hexValue? c).getD 0) 0

/-- A number of hexadecimal digits after a letter: in braces, or just so many. -/
def hexEscape (f : Flags) (width : Nat) : Reading Char := do
  skipSpace f
  let cs ← rest
  match cs with
  | '\x7b' :: inner =>
    let shown := inner.takeWhile (· ≠ '\x7d')
    goTo (inner.drop shown.length)
    expect '\x7d'
    charAt (← hexNumber (if f.spaced then shown.filter (!Text.isBlank ·) else shown))
  | cs =>
    require (width ≤ cs.length)
    goTo (cs.drop width)
    charAt (← hexNumber (cs.take width))

/-- What a backslash and its letter mean. -/
inductive Escape where
  | literal (c : Char)
  | set (s : CharSet)
  | place (a : Assertion)

/-- Classes stay below 128 where the pattern does. -/
def Flags.within (f : Flags) (s : CharSet) : CharSet := if f.wide then s else s.inter .ascii

/-- What is left when a set is taken away; where classes stay below 128, that is no text. -/
def Flags.complement (f : Flags) (s : CharSet) : Reading CharSet := do
  require f.wide
  return s.complement

/-- The classes with a name of one letter or two, and their characters below 128. -/
def properties : List (List String × CharSet) :=
  let upper := CharSet.range 'A' 'Z'
  let lower := CharSet.range 'a' 'z'
  let letters := CharSet.minus .wordChar ((CharSet.digit).union (.single '_'))
  let marks := CharSet.ofText "!\"#%&'()*,-./:;?@[\\]_\x7b\x7d"
  let signs := CharSet.ofText "$+<=>^\x60|~"
  [(["l", "letter", "alphabetic", "alpha"], letters),
    (["lu", "uppercaseletter", "uppercase"], upper),
    (["ll", "lowercaseletter", "lowercase"], lower), (["n", "number"], .digit),
    (["nd", "decimalnumber"], .digit), (["p", "punctuation"], marks), (["s", "symbol"], signs),
    (["z", "separator", "zs", "spaceseparator"], .single ' '),
    (["cc", "control", "c", "other"], (CharSet.range '\x00' '\x1f').union (.single '\x7f')),
    (["whitespace", "space"], .blank), (["any"], .any), (["ascii"], .ascii),
    (["latin"], upper.union lower)]

/-- Names of classes mean the same in letters of either case, and without spaces and joints. -/
def property? (name : List Char) : Option CharSet :=
  let plain := String.ofList ((name.filter (!" _-".toList.contains ·)).map Char.toLower)
  (properties.find? (·.1.contains plain)).map (·.2)

/-- A class by its name, which is one letter or stands in braces. -/
def propertyEscape (f : Flags) (negated : Bool) : Reading CharSet := do
  require f.wide
  let c ← next
  let name ← if c = '\x7b' then
      let cs ← rest
      let name := cs.takeWhile (· ≠ '\x7d')
      goTo (cs.drop name.length)
      expect '\x7d'
      pure name
    else pure [c]
  let (turned, name) := match name with
    | '^' :: name => (true, name)
    | name => (false, name)
  match property? name with
  | some s => return if negated = turned then s else s.complement
  | none => fail

/-- The sides of a word that a name in braces stands for, if braces of that kind follow. -/
def namedPlace? (f : Flags) (word : CharSet) : Reading (Option Assertion) := do
  let isNameChar (c : Char) : Bool := c.isAlpha || c = '-'
  match ← rest with
  | '\x7b' :: inner =>
    let inner := if f.spaced then withoutSpace inner.length inner else inner
    match inner with
    | [] => fail
    | c :: _ =>
      if !isNameChar c then return none
      else
        let name := inner.takeWhile isNameChar
        goTo (inner.drop name.length)
        expect '\x7d'
        match String.ofList name with
        | "start" => return some (.wordStart word)
        | "end" => return some (.wordEnd word)
        | "start-half" => return some (.freeLeft word)
        | "end-half" => return some (.freeRight word)
        | _ => fail
  | _ => return none

/-- What follows a backslash. -/
def escape (f : Flags) : Reading Escape := do
  let c ← next
  let word := f.within .wordChar
  match c with
  | 'x' => return .literal (← hexEscape f 2)
  | 'u' => return .literal (← hexEscape f 4)
  | 'U' => return .literal (← hexEscape f 8)
  | 'p' => return .set (← propertyEscape f false)
  | 'P' => return .set (← propertyEscape f true)
  | 'd' => return .set (f.within .digit)
  | 's' => return .set (f.within .blank)
  | 'w' => return .set word
  | 'D' => return .set (← f.complement .digit)
  | 'S' => return .set (← f.complement .blank)
  | 'W' => return .set (← f.complement .wordChar)
  | 'a' => return .literal '\x07'
  | 'f' => return .literal '\x0c'
  | 't' => return .literal '\t'
  | 'n' => return .literal '\n'
  | 'r' => return .literal '\r'
  | 'v' => return .literal '\x0b'
  | 'A' => return .place .textStart
  | 'z' => return .place .textEnd
  | 'b' => return .place ((← namedPlace? f word).getD (.boundary word))
  | 'B' => return .place (.noBoundary word)
  | '<' => return .place (.wordStart word)
  | '>' => return .place (.wordEnd word)
  | c => if isMeta c || isEscapable c then return .literal c else fail

/-- A set with the other case of its letters where case means nothing. -/
def Flags.fold (f : Flags) (s : CharSet) : CharSet := if f.foldCase then s.folded else s

/-- A part of a class in brackets: one character, or a set. -/
inductive Item where
  | char (c : Char)
  | set (s : CharSet)

def Item.toSet : Item → CharSet
  | .char c => .single c
  | .set s => s

def classItem (f : Flags) : Reading Item := do
  let c ← next
  if c ≠ '\\' then return .char c
  else match ← escape f with
    | .literal c => return .char c
    | .set s => return .set s
    | .place _ => fail

/-- A part of a class that may be a range. A hyphen before the closing bracket, or before another,
stands for itself. -/
def classRange (f : Flags) : Reading CharSet := do
  let first ← classItem f
  skipSpace f
  match ← rest with
  | '-' :: after =>
    let after := if f.spaced then withoutSpace after.length after else after
    match after with
    | ']' :: _ | '-' :: _ => return first.toSet
    | [] => fail
    | _ =>
      goTo after
      match first, ← classItem f with
      | .char low, .char high =>
        require (low ≤ high)
        return .range low high
      | _, _ => fail
  | [] => fail
  | _ => return first.toSet

/-- The classes that are named between colons. -/
def posixClass? (name : String) : Option CharSet :=
  let lower := CharSet.range 'a' 'z'
  let upper := CharSet.range 'A' 'Z'
  let digits := CharSet.range '0' '9'
  match name with
  | "alnum" => some (digits.union (upper.union lower))
  | "alpha" => some (upper.union lower)
  | "ascii" => some .ascii
  | "blank" => some (.ofText "\t ")
  | "cntrl" => some ((CharSet.range '\x00' '\x1f').union (.single '\x7f'))
  | "digit" => some digits
  | "graph" => some (.range '!' '~')
  | "lower" => some lower
  | "print" => some (.range ' ' '~')
  | "punct" => some (.ofRanges [('!', '/'), (':', '@'), ('[', '\x60'), ('\x7b', '~')])
  | "space" => some (.ofText "\t\n\x0b\x0c\r ")
  | "upper" => some upper
  | "word" => some (digits.union (upper.union (lower.union (.single '_'))))
  | "xdigit" => some (.ofRanges [('0', '9'), ('A', 'F'), ('a', 'f')])
  | _ => none

/-- A named class in its brackets and colons, and what follows it. -/
def posixItem? (cs : List Char) : Option (CharSet × List Char) := do
  let inner ← if "[:".toList.isPrefixOf cs then some (cs.drop 2) else none
  let (negated, inner) := match inner with
    | '^' :: inner => (true, inner)
    | inner => (false, inner)
  let name := inner.takeWhile (· ≠ ':')
  let rest ← if ":]".toList.isPrefixOf (inner.drop name.length) then
      some (inner.drop (name.length + 2)) else none
  let s ← posixClass? (String.ofList name)
  return (if negated then s.complement else s, rest)

/-- How two parts of a class are put together. -/
inductive Operator where
  | inter
  | minus
  | difference
  deriving DecidableEq

def Operator.apply : Operator → CharSet → CharSet → CharSet
  | .inter => CharSet.inter
  | .minus => CharSet.minus
  | .difference => CharSet.difference

/-- A class under construction: what stands left of an operator, and the parts after it. -/
structure ClassDraft where
  left : Option (CharSet × Operator) := none
  parts : CharSet := .none

def ClassDraft.close (d : ClassDraft) : CharSet :=
  match d.left with
  | some (left, op) => op.apply left d.parts
  | none => d.parts

def ClassDraft.add (d : ClassDraft) (s : CharSet) : ClassDraft :=
  { d with parts := d.parts.union s }

/-- What stands at the start of a class: a negation, hyphens, and a closing bracket that stands for
itself. -/
def classStart (f : Flags) : Reading (Bool × ClassDraft) := do
  skipSpace f
  let negated ← skip? "^"
  skipSpace f
  let cs ← rest
  let hyphens := cs.takeWhile fun c => c = '-' || (f.spaced && Text.isBlank c)
  goTo (cs.drop hyphens.length)
  if hyphens.contains '-' then return (negated, ({} : ClassDraft).add (.single '-'))
  else if ← skip? "]" then return (negated, ({} : ClassDraft).add (.single ']'))
  else return (negated, {})

/-- A class after its opening bracket. -/
def bracketClass (f : Flags) (negated : Bool) (d : ClassDraft) : Nat → Reading CharSet
  | 0 => fail
  | steps + 1 => do
    skipSpace f
    let cs ← rest
    match cs with
    | [] => fail
    | '[' :: inner =>
      match posixItem? cs with
      | some (s, after) =>
        goTo after
        bracketClass f negated (d.add (f.fold s)) steps
      | none =>
        goTo inner
        let (innerNegated, start) ← classStart f
        let s ← bracketClass f innerNegated start steps
        bracketClass f negated (d.add s) steps
    | ']' :: after =>
      goTo after
      if negated then f.complement d.close else return d.close
    | '&' :: '&' :: after => operate .inter after steps
    | '-' :: '-' :: after => operate .minus after steps
    | '~' :: '~' :: after => operate .difference after steps
    | _ => bracketClass f negated (d.add (f.fold (← classRange f))) steps
where
  operate (op : Operator) (after : List Char) (steps : Nat) : Reading CharSet := do
    goTo after
    bracketClass f negated { left := some (d.close, op) } steps

/-- Flags between a question mark and the colon or parenthesis that ends them. -/
def readFlags (off : Bool) (seen : List Char) (f : Flags) : Nat → Reading (Flags × Char × Bool)
  | 0 => fail
  | steps + 1 => do
    let c ← next
    if c = ':' ∨ c = ')' then
      require (seen.head? ≠ some '-')
      return (f, c, seen.isEmpty)
    else
      require (c ∉ seen)
      match c with
      | '-' => readFlags true (c :: seen) f steps
      | 'i' => readFlags off (c :: seen) { f with foldCase := !off } steps
      | 'm' => readFlags off (c :: seen) { f with lines := !off } steps
      | 's' => readFlags off (c :: seen) { f with dotAll := !off } steps
      | 'R' => readFlags off (c :: seen) { f with wideEnds := !off } steps
      | 'x' => readFlags off (c :: seen) { f with spaced := !off } steps
      | 'u' => readFlags off (c :: seen) { f with wide := !off } steps
      | 'U' => readFlags off (c :: seen) f steps
      | _ => fail

/-- A group's name, up to the angle bracket. No two groups have the same. -/
def groupName : Reading Unit := do
  let cs ← rest
  let name := cs.takeWhile (· ≠ '>')
  goTo (cs.drop name.length)
  expect '>'
  let starts (c : Char) : Bool := c = '_' || (Text.isWordChar c && !Text.isDecimalDigit c)
  let goesOn (c : Char) : Bool := Text.isWordChar c || ".[]".toList.contains c
  require (name.head?.any starts && name.all goesOn && name ∉ (← get).names)
  modify fun s => { s with names := name :: s.names }

/-- A count of repetitions; white space around it means nothing. -/
def count? (f : Flags) : Reading (Option Nat) := do
  let cs := (← rest).dropWhile Text.isBlank
  let digits := cs.takeWhile fun c => c.isDigit || (f.spaced && Text.isBlank c)
  goTo ((cs.drop digits.length).dropWhile Text.isBlank)
  let digits := digits.filter Char.isDigit
  if digits.isEmpty then return none
  else
    let n := digits.foldl (fun n c => n * 10 + (c.toNat - 48)) 0
    require (n < 4294967296)
    return some n

/-- Repetitions after an opening brace: just so many, at least so many, or between two counts. -/
def counted (f : Flags) : Reading (Nat × Option Nat) := do
  skipSpace f
  let low ← count? f
  match low with
  | none => fail
  | some low =>
    if ← skip? "," then
      skipSpace f
      if ← skip? "\x7d" then return (low, none)
      else match ← count? f with
        | none => fail
        | some high =>
          expect '\x7d'
          require (low ≤ high)
          return (low, some (high - low))
    else
      expect '\x7d'
      return (low, some 0)

/-- The parts of a sequence, last first. Flags are a part that cannot be repeated. -/
abbrev Parts := List (Option Regex)

def Parts.close (parts : Parts) : Regex := sequence (parts.reverse.filterMap id)

/-- Repeats the last part. A question mark after it asks for few repetitions, which changes nothing
about where a pattern is found. -/
def repeatLast (parts : Parts) (low : Nat) (more : Option Nat) : Reading Parts := do
  let _ ← skip? "?"
  match parts with
  | some r :: parts => return some (.times r low more) :: parts
  | _ => fail

def Flags.point (f : Flags) : Reading CharSet := do
  require f.wide
  return if f.dotAll then .any
    else if f.wideEnds then (CharSet.ofText "\r\n").complement
    else (CharSet.single '\n').complement

def Flags.start (f : Flags) : Assertion :=
  if !f.lines then .textStart else if f.wideEnds then .wideLineStart else .lineStart

def Flags.finish (f : Flags) : Assertion :=
  if !f.lines then .textEnd else if f.wideEnds then .wideLineEnd else .lineEnd

/-- How a group begins after its parenthesis. -/
inductive Opening where
  /-- Flags for what follows, without a group. -/
  | flags (f : Flags)
  | group (f : Flags)

def opening (f : Flags) : Reading Opening := do
  skipSpace f
  let cs ← rest
  require (!(["?=", "?!", "?<=", "?<!"].any fun text => text.toList.isPrefixOf cs))
  if ← skip? "?P<" then groupName; return .group f
  else if ← skip? "?<" then groupName; return .group f
  else if ← skip? "?" then
    let (inner, last, bare) ← readFlags false [] f (cs.length + 1)
    if last = ')' then
      require !bare
      return .flags inner
    else return .group inner
  else return .group f

/-- The alternatives up to a closing parenthesis or the end, those before the current one and its
parts so far last first. -/
def alternatives (f : Flags) (done : List Regex) (parts : Parts) : Nat → Reading Regex
  | 0 => fail
  | steps + 1 => do
    let goOn (part : Regex) : Reading Regex := alternatives f done (some part :: parts) steps
    skipSpace f
    match ← peek with
    | none | some ')' => return done.foldl (fun r d => .or d r) parts.close
    | some _ =>
      match ← next with
      | '|' => alternatives f (parts.close :: done) [] steps
      | '(' =>
        match ← opening f with
        | .flags inner => alternatives inner done (none :: parts) steps
        | .group inner =>
          let r ← alternatives inner [] [] steps
          expect ')'
          goOn r
      | '[' =>
        let (negated, start) ← classStart f
        goOn (.char (← bracketClass f negated start steps))
      | '?' => alternatives f done (← repeatLast parts 0 (some 1)) steps
      | '*' => alternatives f done (← repeatLast parts 0 none) steps
      | '+' => alternatives f done (← repeatLast parts 1 none) steps
      | '\x7b' =>
        let (low, more) ← counted f
        skipSpace f
        alternatives f done (← repeatLast parts low more) steps
      | '.' => goOn (.char (← f.point))
      | '^' => goOn (.place f.start)
      | '$' => goOn (.place f.finish)
      | '\\' =>
        match ← escape f with
        | .literal c => goOn (.char (f.fold (.single c)))
        | .set s => goOn (.char (f.fold s))
        | .place a => goOn (.place a)
      | c => goOn (.char (f.fold (.single c)))

/-- No pattern may be larger. -/
def maxSize : Nat := 200000

/-- The pattern that a text spells. -/
def ofText? (text : String) : Option Regex := do
  let cs := text.toList
  let (r, last) ← (alternatives {} [] [] (2 * cs.length + 2)).run { rest := cs }
  if last.rest.isEmpty && r.size ≤ maxSize then some r else none

end RouteSync.Regex
