import RouteSync.Regex.Parser
import RouteSync.Rehearsal.Shell.Tools.Options
import RouteSync.Text.Digits

/-! Tools that look for patterns in lines. -/
namespace RouteSync.Rehearsal.Shell

/-- The inside of a class in brackets, where a backslash means nothing, and what follows. -/
def patternClass (first : Bool) (done : List Char) : Nat → List Char → List Char × List Char
  | 0, rest => (done.reverse, rest)
  | _, [] => (done.reverse, [])
  | n + 1, '[' :: ':' :: rest =>
    let name := rest.takeWhile (· ≠ ':')
    patternClass false (":]".toList.reverse ++ name.reverse ++ ":[".toList ++ done) n
      (rest.drop (name.length + 2))
  | n + 1, c :: rest =>
    if c = ']' && !first then ((']' :: done).reverse, rest)
    else if c = '-' || c.isAlphanum then patternClass false (c :: done) n rest
    else if c.toNat < 128 && 32 < c.toNat then patternClass false (c :: '\\' :: done) n rest
    else patternClass false (c :: done) n rest

/-- A pattern in the plain spelling of this library. In the basic kind, signs get their meaning from
a backslash, and lose it in the extended one. -/
def plainPattern (extended start : Bool) : Nat → List Char → List Char
  | 0, _ | _, [] => []
  | n + 1, '[' :: rest =>
    let (negation, rest) : List Char × List Char := match rest with
      | '^' :: rest => (['^'], rest)
      | rest => ([], rest)
    let (inside, rest) := patternClass true [] (rest.length + 1) rest
    '[' :: negation ++ inside ++ plainPattern extended false n rest
  | n + 1, '\\' :: c :: rest =>
    let sign := "()\x7b\x7d|+?".toList.contains c
    if sign && !extended then c :: plainPattern extended (c = '(' || c = '|') n rest
    else '\\' :: c :: plainPattern extended false n rest
  | n + 1, c :: rest =>
    let literal := !extended && ("()\x7b\x7d|+?".toList.contains c || (c = '*' && start) ||
      (c = '^' && !start) || (c = '$' && !rest.isEmpty && !"\\)".toList.isPrefixOf rest &&
        !"\\|".toList.isPrefixOf rest))
    let more := plainPattern extended (c = '^' || (extended && (c = '(' || c = '|'))) n rest
    if literal then '\\' :: c :: more else c :: more

/-- A text in which nothing is a sign. -/
def fixedPattern (text : List Char) : List Char :=
  text.flatMap fun c =>
    if c.toNat < 128 && 32 < c.toNat && !c.isAlphanum && c ≠ '<' && c ≠ '>' then ['\\', c] else [c]

/-- A pattern and what options make of it. -/
def searchPattern? (o : Options) (text : String) : Option Regex :=
  let cs := text.toList
  let body := if o.has 'F' then fixedPattern cs
    else plainPattern (o.has 'E' || o.has 'r') true (cs.length + 1) cs
  let body := String.ofList body
  let body := if o.has 'i' then "(?i:" ++ body ++ ")" else body
  let body := if o.has 'x' then "^(?:" ++ body ++ ")$"
    else if o.has 'w' then "(?:^|\\W)(?:" ++ body ++ ")(?:\\W|$)" else body
  Regex.ofText? body

/-- Where the first and longest place of a pattern begins and ends, from some place on. -/
def Regex.longest? (r : RouteSync.Regex) (text : Array Char) (start : Nat) : Option (Nat × Nat) :=
  (List.range (text.size + 1 - start)).findSome? fun i =>
    ((r.ends text (start + i)).max?).map (start + i, ·)

namespace Script

/-- The parts of a line that a pattern describes. -/
def foundParts (r : RouteSync.Regex) (line : Array Char) : Nat → Nat → List (List Char)
  | 0, _ => []
  | n + 1, start =>
    match Regex.longest? r line start with
    | none => []
    | some (first, last) =>
      if first < last then ((line.toList.take last).drop first) :: foundParts r line n last
      else foundParts r line n (last + 1)

def grep (args : List String) : Script Unit :=
  withOptions "grep" { plain := "EFqcvinolwxshHr", valued := "emA", long := [("quiet", 'q')] } args
    (fun o => do
      let (pattern?, paths) := match o.value? 'e', o.operands with
        | some pattern, paths => (some pattern, paths)
        | none, pattern :: paths => (some pattern, paths)
        | none, [] => (none, [])
      match pattern? with
      | none =>
        say 2 "Usage: grep [OPTION]... PATTERNS [FILE]...\n"
        say 2 "Try 'grep --help' for more information.\n"
        setStatus 2
      | some pattern =>
        match searchPattern? o pattern with
        | none =>
          report "grep" "Invalid regular expression"
          setStatus 2
        | some r =>
          let named := (1 < paths.length || o.has 'H') && !o.has 'h'
          let mut found := false
          let mut faulty := false
          for path in (if paths.isEmpty then ["-"] else paths) do
            let shown := if path = "-" then "(standard input)" else path
            let start := if named then shown ++ ":" else ""
            match ← content path with
            | .error fault =>
              faulty := true
              if !o.has 's' then report "grep" (path ++ ": " ++ faultText fault)
            | .ok text =>
              let hits := (linesOf text).zipIdx.filter fun (line, _) =>
                r.foundIn (String.ofList line) ≠ o.has 'v'
              let hits := match (o.value? 'm').bind fun n => RouteSync.Text.natural? n.toList with
                | some n => hits.take n
                | none => hits
              if !hits.isEmpty then found := true
              if o.has 'q' then pure ()
              else if o.has 'c' then say 1 (start ++ toString hits.length ++ "\n")
              else if o.has 'l' then
                if !hits.isEmpty then say 1 (shown ++ "\n")
              else
                for (line, i) in hits do
                  let start := start ++ if o.has 'n' then toString (i + 1) ++ ":" else ""
                  if o.has 'o' then
                    for part in foundParts r line.toArray (line.length + 1) 0 do
                      say 1 (start ++ String.ofList part ++ "\n")
                  else say 1 (start ++ String.ofList line ++ "\n")
          setStatus (if faulty && !(found && o.has 'q') then 2 else if found then 0 else 1)) 2

/-- Where in a text a command of an editor applies. -/
inductive Address where
  | line (n : Nat)
  | last
  | found (r : RouteSync.Regex)

inductive EditAction where
  | delete
  | print
  | quit
  | replace (r : RouteSync.Regex) (by_ : List Char) (all shown : Bool)

structure Edit where
  start : Option Address := none
  finish : Option Address := none
  negated : Bool := false
  action : EditAction

/-- A text up to a sign that no backslash stands before, and what follows it. -/
def upTo (sign : Char) : List Char → Option (List Char × List Char)
  | [] => none
  | '\\' :: c :: rest => do
    let (part, after) ← upTo sign rest
    return (if c = sign then c :: part else '\\' :: c :: part, after)
  | c :: rest =>
    if c = sign then some ([], rest)
    else do
      let (part, after) ← upTo sign rest
      return (c :: part, after)

def address? (o : Options) (cs : List Char) : Option (Option Address × List Char) :=
  match cs with
  | '$' :: rest => some (some .last, rest)
  | '/' :: rest => do
    let (pattern, rest) ← upTo '/' rest
    return (some (.found (← searchPattern? o (String.ofList pattern))), rest)
  | cs =>
    let ds := cs.takeWhile Char.isDigit
    some ((RouteSync.Text.natural? ds).map .line, cs.drop ds.length)

/-- The commands of an editor, one after another. -/
def edits? (o : Options) : Nat → List Char → Option (List Edit)
  | 0, _ => none
  | n + 1, cs => do
    match cs.dropWhile fun c => c = ' ' || c = ';' || c = '\n' with
    | [] => return []
    | cs =>
      let (start, cs) ← address? o cs
      let (finish, cs) ← match cs with
        | ',' :: rest => address? o rest
        | cs => some (none, cs)
      let cs := cs.dropWhile (· = ' ')
      let (negated, cs) := match cs with
        | '!' :: rest => (true, rest)
        | cs => (false, cs)
      let edit (action : EditAction) (rest : List Char) : Option (List Edit) := do
        return ⟨start, finish, negated, action⟩ :: (← edits? o n rest)
      match cs with
      | 'd' :: rest => edit .delete rest
      | 'p' :: rest => edit .print rest
      | 'q' :: rest => edit .quit rest
      | 's' :: sign :: rest =>
        let (pattern, rest) ← upTo sign rest
        let (by_, rest) ← upTo sign rest
        let marks := rest.takeWhile Char.isAlpha
        let o := if marks.contains 'I' || marks.contains 'i' then
          { o with letters := ('i', "") :: o.letters } else o
        let r ← searchPattern? o (String.ofList pattern)
        edit (.replace r by_ (marks.contains 'g') (marks.contains 'p')) (rest.drop marks.length)
      | _ => none

/-- What stands in the place of a found part: an ampersand is the part itself. -/
def replacement (found : List Char) : List Char → List Char
  | [] => []
  | '\\' :: 'n' :: rest => '\n' :: replacement found rest
  | '\\' :: c :: rest => c :: replacement found rest
  | '&' :: rest => found ++ replacement found rest
  | c :: rest => c :: replacement found rest

/-- A line after a replacement, and whether there was anything to replace. -/
def replaced (r : RouteSync.Regex) (by_ : List Char) (all : Bool) (line : List Char) :
    Nat → Nat → List Char × Bool
  | 0, start => (line.drop start, false)
  | n + 1, start =>
    match Regex.longest? r line.toArray start with
    | none => (line.drop start, false)
    | some (first, last) =>
      let kept := (line.take first).drop start
      let put := replacement ((line.take last).drop first) by_
      let step := if first < last then [] else (line.drop last).take 1
      let next := if first < last then last else last + 1
      let (rest, _) := if all then replaced r by_ all line n next else (line.drop next, true)
      (kept ++ put ++ step ++ rest, true)

/-- Whether an address is that of a line. -/
def Address.fits (a : Address) (number count : Nat) (line : List Char) : Bool :=
  match a with
  | .line n => n = number
  | .last => number = count
  | .found r => r.foundIn (String.ofList line)

/-- A line under way: what it has become, what was printed, and whether it is gone or the last. -/
structure Edited where
  line : List Char
  shown : List (List Char) := []
  gone : Bool := false
  last : Bool := false

/-- Applies commands to a line. Of every command it is known whether its range is open. -/
def editLine (number count : Nat) (edits : List (Edit × Bool)) (line : List Char) :
    Edited × List (Edit × Bool) :=
  edits.foldl (fun (state, after) (e, inside) =>
    let starts := e.start.all (·.fits number count state.line)
    let (applies, inside) := match e.finish with
      | none => (starts, false)
      | some finish =>
        if inside then (true, !finish.fits number count state.line)
        else if starts then
          (true, match finish with
            | .line n => number < n
            | .last => number < count
            | .found _ => true)
        else (false, false)
    let after := after ++ [(e, inside)]
    if state.gone || state.last || applies = e.negated then (state, after)
    else match e.action with
      | .delete => ({ state with gone := true }, after)
      | .print => ({ state with shown := state.shown ++ [state.line] }, after)
      | .quit => ({ state with last := true }, after)
      | .replace r by_ all shown =>
        let (line, any) := replaced r by_ all state.line (state.line.length + 2) 0
        if any then
          let shown := if shown then state.shown ++ [line] else state.shown
          ({ state with line, shown }, after)
        else (state, after)) (⟨line, [], false, false⟩, [])

/-- A text after some commands. -/
def edited (quiet : Bool) (edits : List Edit) (text : List Char) : List Char :=
  let lines := linesOf text
  let count := lines.length
  let step := fun (state : List (List Char) × List (Edit × Bool) × Bool) (item : List Char × Nat) =>
    let (shown, edits, ended) := state
    if ended then state
    else
      let (e, edits) := editLine (item.2 + 1) count edits item.1
      let own := if e.gone || quiet then [] else [e.line]
      (shown ++ e.shown ++ own, edits, e.last)
  let (shown, _, _) := lines.zipIdx.foldl step ([], edits.map (·, false), false)
  let whole := ofLines shown
  if text.getLast? ≠ some '\n' then whole.dropLast else whole

def sed (args : List String) : Script Unit :=
  withOptions "sed" { plain := "nErsi", valued := "e" } args fun o => do
    let scripts := (o.letters.filter (·.1 = 'e')).map (·.2)
    let (scripts, paths) := match scripts, o.operands with
      | [], script :: paths => ([script], paths)
      | scripts, paths => (scripts, paths)
    let script := ("\n".intercalate scripts).toList
    match edits? { o with letters := o.letters.filter (·.1 ≠ 'i') } (script.length + 2) script with
    | none =>
      report "sed" "-e expression #1, char 1: unknown command"
      setStatus 1
    | some edits =>
      if o.has 'i' then
        for path in paths do
          match (← get).disk.file (pathOf path), (← get).disk.locate (pathOf path) with
          | .ok f, .ok place =>
            let bytes := toBytes (edited (o.has 'n') edits (ofBytes f.bytes))
            modify fun s => { s with disk := s.disk.put place (.file { f with bytes }) }
          | .error fault, _ =>
            report "sed" ("can't read " ++ path ++ ": " ++ faultText fault)
            setStatus 2
          | _, _ => pure ()
      else
        let mut whole : List Char := []
        for path in (if paths.isEmpty then ["-"] else paths) do
          match ← content path with
          | .ok text => whole := whole ++ text
          | .error fault =>
            report "sed" ("can't read " ++ path ++ ": " ++ faultText fault)
            setStatus 2
        say 1 (String.ofList (edited (o.has 'n') edits whole))

end Script
end RouteSync.Rehearsal.Shell
