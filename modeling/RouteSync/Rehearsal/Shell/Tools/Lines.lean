import RouteSync.Rehearsal.Shell.Print
import RouteSync.Rehearsal.Shell.Tools.Files

/-! Tools that pass texts on: whole, in part, or in another order. -/
namespace RouteSync.Rehearsal.Shell

/-- A column of a number, at the right of its width. -/
def column (width n : Nat) : String :=
  let digits := toString n
  String.ofList (List.replicate (width - digits.length) ' ') ++ digits

/-- The lines of a text with their ends, of which the last may have none. -/
def endedLines (text : List Char) : List (List Char) :=
  match Text.splitOn '\n' text with
  | parts =>
    let last := parts.getLast?.getD []
    parts.dropLast.map (· ++ ['\n']) ++ if last.isEmpty then [] else [last]

/-- The items that ranges such as `1,3-5` choose among so many. -/
def chosen? (count : Nat) (ranges : String) : Option (List Nat) := do
  let spans ← (Text.splitOn ',' ranges.toList).mapM fun part =>
    match Text.splitOn '-' part with
    | [only] => do
      let n ← Text.natural? only
      return (n, n)
    | [low, high] => do
      let low ← if low.isEmpty then some 1 else Text.natural? low
      let high ← if high.isEmpty then some count else Text.natural? high
      return (low, high)
    | _ => none
  if spans.any fun (low, high) => low = 0 || high < low && high ≠ count then none
  return (List.range count).filter fun i => spans.any fun (low, high) => low ≤ i + 1 && i + 1 ≤ high

/-- The characters that a set of `tr` names: ranges, classes and escapes. -/
def substitutionSet : Nat → List Char → List Char
  | 0, _ | _, [] => []
  | n + 1, '[' :: ':' :: rest =>
    let name := String.ofList (rest.takeWhile (· ≠ ':'))
    let after := rest.drop (name.length + 2)
    match name with
    | "upper" => range 'A' 'Z' ++ substitutionSet n after
    | "lower" => range 'a' 'z' ++ substitutionSet n after
    | "digit" => range '0' '9' ++ substitutionSet n after
    | "alpha" => range 'A' 'Z' ++ range 'a' 'z' ++ substitutionSet n after
    | "alnum" => range '0' '9' ++ range 'A' 'Z' ++ range 'a' 'z' ++ substitutionSet n after
    | "space" => "\t\n\x0b\x0c\r ".toList ++ substitutionSet n after
    | _ => substitutionSet n after
  | n + 1, '\\' :: rest =>
    let (c, rest) := escape rest
    c :: substitutionSet n rest
  | n + 1, a :: '-' :: b :: rest => range a b ++ substitutionSet n rest
  | n + 1, c :: rest => c :: substitutionSet n rest
where
  range (a b : Char) : List Char :=
    (List.range (b.toNat + 1 - a.toNat)).map fun i => Char.ofNat (a.toNat + i)

/-- A text with runs of the same character in a set made one. -/
def squeezed (set : Char → Bool) : List Char → List Char
  | a :: b :: rest =>
    if a = b && set a then squeezed set (b :: rest) else a :: squeezed set (b :: rest)
  | rest => rest

/-- A number at the start of a line, in order behind negative ones. -/
def leadingNumber (line : List Char) : Int :=
  let cs := line.dropWhile isBlankByte
  match cs with
  | '-' :: rest => -(Net.valueOf 10 (Net.digits 10 (rest.takeWhile Char.isDigit)).1 : Int)
  | rest => (Net.valueOf 10 (Net.digits 10 (rest.takeWhile Char.isDigit)).1 : Int)

/-- The part of a line from a field on, fields being blanks and what follows them. -/
def fromField (separator : Option Char) : Nat → List Char → List Char
  | 0, line => line
  | n + 1, line =>
    match separator with
    | some c => fromField separator n ((line.dropWhile (· ≠ c)).drop 1)
    | none => fromField separator n ((line.dropWhile isBlankByte).dropWhile (!isBlankByte ·))

namespace Script

def sayChars (chars : List Char) : Script Unit := say 1 (String.ofList chars)

def cat (args : List String) : Script Unit :=
  withOptions "cat" { plain := "nuvetAETb", long := [("number", 'n')] } args fun o => do
    let mut number := 1
    for path in (if o.operands.isEmpty then ["-"] else o.operands) do
      match ← content path with
      | .ok text =>
        if o.has 'n' then
          for line in endedLines text do
            say 1 (column 6 number ++ "\t" ++ String.ofList line)
            number := number + 1
        else sayChars text
      | .error fault =>
        report "cat" (path ++ ": " ++ faultText fault)
        setStatus 1

/-- Options such as `-2` ask for so many lines. -/
def withCounts (args : List String) : List String :=
  args.map fun arg => match arg.toList with
    | '-' :: c :: rest =>
      if c.isDigit && rest.all Char.isDigit then "-n" ++ String.ofList (c :: rest) else arg
    | _ => arg

/-- Puts names above several texts. -/
def eachShown (tool : String) (o : Options) (run : List Char → List Char) : Script Unit := do
  let paths := if o.operands.isEmpty then ["-"] else o.operands
  let mut first := true
  for path in paths do
    match ← content path with
    | .ok text =>
      if 1 < paths.length && !o.has 'q' then
        let shown := if path = "-" then "standard input" else path
        say 1 ((if first then "" else "\n") ++ "==> " ++ shown ++ " <==\n")
      first := false
      sayChars (run text)
    | .error fault =>
      let what := if fault = .isFolder then "error reading " ++ quote path ++ ": Is a directory"
        else "cannot open " ++ quote path ++ " for reading: " ++ faultText fault
      report tool what
      setStatus 1

/-- A count with a factor after it. -/
def count? (text : List Char) : Option Nat :=
  let ds := text.takeWhile Char.isDigit
  let factor? : Option Nat := match String.ofList (text.drop ds.length) with
    | "" => some 1
    | "b" => some 512
    | "k" | "K" | "KiB" => some 1024
    | "kB" | "KB" => some 1000
    | "M" | "m" | "MiB" => some 1048576
    | "MB" => some 1000000
    | _ => none
  (Text.natural? ds).bind fun n => factor?.map (n * ·)

def head (args : List String) : Script Unit :=
  withOptions "head" { plain := "qv", valued := "nc" } (withCounts args) fun o => do
    let bytes := o.value? 'c'
    let text := (bytes.orElse fun _ => o.value? 'n').getD "10"
    let (butLast, ds) := match text.toList with
      | '-' :: ds => (true, ds)
      | ds => (false, ds)
    match count? ds with
    | none =>
      let what := if bytes.isSome then "bytes" else "lines"
      report "head" ("invalid number of " ++ what ++ ": " ++ quote text)
      setStatus 1
    | some n =>
      let zeros := o.operands = ["/dev/zero"] || (o.operands.isEmpty && (← isZero 0))
      if bytes.isSome && zeros then sayChars (List.replicate n '\x00')
      else eachShown "head" o fun text =>
        if bytes.isSome then if butLast then text.take (text.length - n) else text.take n
        else
          let lines := endedLines text
          (if butLast then lines.take (lines.length - n) else lines.take n).flatten

def tail (args : List String) : Script Unit :=
  withOptions "tail" { plain := "qvf", valued := "nc" } (withCounts args) fun o => do
    let bytes := o.value? 'c'
    let text := (bytes.orElse fun _ => o.value? 'n').getD "10"
    let (fromStart, ds) := match text.toList with
      | '+' :: ds => (true, ds)
      | '-' :: ds => (false, ds)
      | ds => (false, ds)
    match count? ds with
    | none =>
      let what := if bytes.isSome then "bytes" else "lines"
      report "tail" ("invalid number of " ++ what ++ ": " ++ quote text)
      setStatus 1
    | some n =>
      eachShown "tail" o fun text =>
        let skipped (size : Nat) : Nat := if fromStart then n - 1 else size - n
        if bytes.isSome then text.drop (skipped text.length)
        else
          let lines := endedLines text
          (lines.drop (skipped lines.length)).flatten

/-- The words of a text. -/
def wordCount (text : List Char) : Nat :=
  let isGap (c : Char) : Bool := isBlankByte c || (11 ≤ c.toNat && c.toNat ≤ 13)
  (text.foldl (fun (n, inside) c =>
    if isGap c then (n, false) else if inside then (n, true) else (n + 1, true)) (0, false)).1

/-- Whether a number leads to a file. -/
def leadsToFile (number : Nat) : Script Bool := do
  match ← channel? number with
  | some (.open n) =>
    return (get? n (← get).opened).any fun f => match f.source with
      | .file _ => true
      | _ => false
  | _ => return false

def wc (args : List String) : Script Unit :=
  withOptions "wc" { plain := "lwcmL" } args fun o => do
    let all := !(o.has 'l' || o.has 'w' || o.has 'c' || o.has 'm')
    let counts (text : List Char) : List Nat :=
      (if all || o.has 'l' then [text.count '\n'] else []) ++
        (if all || o.has 'w' then [wordCount text] else []) ++
        if all || o.has 'c' || o.has 'm' then [text.length] else []
    let onFiles := !o.operands.isEmpty || (← leadsToFile 0)
    let mut found : List (String × List Char) := []
    for path in (if o.operands.isEmpty then ["-"] else o.operands) do
      match ← content path with
      | .ok text => found := found ++ [(if o.operands.isEmpty then "" else " " ++ path, text)]
      | .error fault =>
        report "wc" (path ++ ": " ++ faultText fault)
        setStatus 1
    let size := (found.flatMap (·.2)).length
    let single := o.operands.length ≤ 1 && (counts []).length = 1
    let width := if single then 1 else if onFiles then (toString size).length else 7
    let row (counts : List Nat) (name : String) : Script Unit :=
      say 1 (" ".intercalate (counts.map (column width)) ++ name ++ "\n")
    for (name, text) in found do
      row (counts text) name
    if 1 < o.operands.length then
      let sums := found.foldl (fun sums (_, text) => List.zipWith (· + ·) sums (counts text))
        ((counts []).map fun _ => 0)
      row sums " total"

def sort (args : List String) : Script Unit :=
  withOptions "sort" { plain := "rnubfs", valued := "kto" } args (fun o => do
    let mut lines : List (List Char) := []
    for path in (if o.operands.isEmpty then ["-"] else o.operands) do
      match ← content path with
      | .ok text => lines := lines ++ linesOf text
      | .error fault =>
        report "sort" ("cannot read: " ++ path ++ ": " ++ faultText fault)
        setStatus 2
    let field? := (o.value? 'k').bind fun k => Text.natural? (k.toList.takeWhile Char.isDigit)
    let field := field?.getD 1
    let numeric := o.has 'n' || (o.value? 'k').any fun k => k.toList.contains 'n'
    let separator := (o.value? 't').bind fun t => t.toList.head?
    let key (line : List Char) : List Char :=
      let part := fromField separator (field - 1) line
      if o.has 'f' then part.map Char.toUpper else part
    let compare (a b : List Char) : Ordering :=
      let byKey := if numeric
        then compareOfLessAndEq (leadingNumber (key a)) (leadingNumber (key b))
        else compareOfLessAndEq (String.ofList (key a)) (String.ofList (key b))
      let byKey := if o.has 'r' then byKey.swap else byKey
      if byKey ≠ .eq || o.has 'u' || o.has 's' then byKey
      else
        let whole := compareOfLessAndEq (String.ofList a) (String.ofList b)
        if o.has 'r' then whole.swap else whole
    if (← get).status = 0 then
      let sorted := lines.mergeSort fun a b => compare a b ≠ .gt
      let sorted := if o.has 'u' then
        (sorted.foldl (fun kept line => match kept with
          | last :: _ => if compare last line = .eq then kept else line :: kept
          | [] => [line]) []).reverse
        else sorted
      match o.value? 'o' with
      | some path =>
        let bytes := toBytes (ofLines sorted)
        modifyDisk fun d => (d.write (pathOf path) bytes).toOption.getD d
      | none => sayChars (ofLines sorted)) 2

/-- Equal neighbours, each with their number. -/
def runs (same : List Char → List Char → Bool) (lines : List (List Char)) :
    List (Nat × List Char) :=
  (lines.foldl (fun found line => match found with
    | (n, last) :: more => if same last line then (n + 1, last) :: more else (1, line) :: found
    | [] => [(1, line)]) []).reverse

def uniq (args : List String) : Script Unit :=
  withOptions "uniq" { plain := "cdui" } args fun o => do
    let same (a b : List Char) : Bool :=
      if o.has 'i' then a.map Char.toLower = b.map Char.toLower else a = b
    eachContent "uniq" (o.operands.take 1) fun _ text => do
      for (n, line) in runs same (linesOf text) do
        if (!o.has 'd' || 1 < n) && (!o.has 'u' || n = 1) then
          say 1 ((if o.has 'c' then column 7 n ++ " " else "") ++ String.ofList line ++ "\n")

def cutParts (args : List String) : Script Unit :=
  withOptions "cut" { plain := "sn", valued := "dfcb" } args fun o => do
    let separator := ((o.value? 'd').bind fun d => d.toList.head?).getD '\t'
    match o.value? 'f', (o.value? 'c').orElse fun _ => o.value? 'b' with
    | some ranges, _ =>
      eachContent "cut" o.operands fun _ text => do
        for line in linesOf text do
          let fields := Text.splitOn separator line
          if fields.length ≤ 1 then
            if !o.has 's' then say 1 (String.ofList line ++ "\n")
          else
            let kept := ((chosen? fields.length ranges).getD []).filterMap (fields[·]?)
            say 1 (String.ofList (List.intercalate [separator] kept) ++ "\n")
    | none, some ranges =>
      eachContent "cut" o.operands fun _ text => do
        for chars in linesOf text do
          let kept := ((chosen? chars.length ranges).getD []).filterMap (chars[·]?)
          say 1 (String.ofList kept ++ "\n")
    | none, none => misuse "cut" "you must specify a list of bytes, characters, or fields"

/-- The character that another becomes: the one at its place in the second set, which is made longer
by its last one. -/
def substituted (first second : List Char) (outside : Bool) (c : Char) : Char :=
  let last := second.getLast?.getD c
  if outside then if first.contains c then c else last
  else match first.reverse.findIdx? (· = c) with
    | some i => second[first.length - 1 - i]?.getD last
    | none => c

def tr (args : List String) : Script Unit :=
  withOptions "tr" { plain := "dscC" } args fun o => do
    let outside := o.has 'c' || o.has 'C'
    match o.operands.map fun set => substitutionSet (set.length + 1) set.toList with
    | [] => misuse "tr" "missing operand"
    | first :: rest =>
      let within (c : Char) : Bool := first.contains c ≠ outside
      let named := o.operands.headD ""
      match rest with
      | [] =>
        if o.has 'd' then sayChars ((← readAll 0).filter (!within ·))
        else if o.has 's' then sayChars (squeezed within (← readAll 0))
        else misuse "tr" ("missing operand after " ++ quote named ++
          "\nTwo strings must be given when translating.")
      | second :: _ =>
        if o.has 'd' then
          let text := (← readAll 0).filter (!within ·)
          sayChars (if o.has 's' then squeezed second.contains text else text)
        else
          let text := (← readAll 0).map (substituted first second outside)
          sayChars (if o.has 's' then squeezed second.contains text else text)

def tee (args : List String) : Script Unit :=
  withOptions "tee" { plain := "ai" } args fun o => do
    let text ← readAll 0
    sayChars text
    for path in o.operands do
      let d := (← get).disk
      let old := if o.has 'a' then (d.read (pathOf path)).toOption.getD [] else []
      match d.write (pathOf path) (old ++ toBytes text) with
      | .ok d => modifyDisk fun _ => d
      | .error fault =>
        if path ≠ "/dev/null" then
          report "tee" (path ++ ": " ++ faultText fault)
          setStatus 1

def baseName (args : List String) : Script Unit :=
  withOptions "basename" {} args fun o => do
    match o.operands with
    | [] => misuse "basename" "missing operand"
    | [path] => say 1 (lastName path ++ "\n")
    | [path, ending] =>
      let name := (lastName path).toList
      let cut := ending.toList.isSuffixOf name && ending.length < name.length
      let name := if cut then name.take (name.length - ending.length) else name
      say 1 (String.ofList name ++ "\n")
    | _ :: _ :: extra :: _ => misuse "basename" ("extra operand " ++ quote extra)

/-- The folder that a path is in. -/
def folderName (path : String) : String :=
  let cs := path.toList.reverse.dropWhile (· = '/')
  let way := cs.dropWhile (· ≠ '/')
  let folder := way.dropWhile (· = '/')
  if !folder.isEmpty then String.ofList folder.reverse
  else if !way.isEmpty || (cs.isEmpty && !path.isEmpty) then "/" else "."

def directoryName (args : List String) : Script Unit :=
  withOptions "dirname" {} args fun o => do
    if o.operands.isEmpty then misuse "dirname" "missing operand"
    for path in o.operands do
      say 1 (folderName path ++ "\n")

def seq (args : List String) : Script Unit := do
  let (separator, args) : String × List String := match args with
    | "-s" :: separator :: rest => (separator, rest)
    | arg :: rest =>
      match arg.toList with
      | '-' :: 's' :: separator => (String.ofList separator, rest)
      | _ => ("\n", args)
    | [] => ("\n", [])
  setStatus 0
  let run (first step last : Int) : Script Unit := do
    let count := if step = 0 then 0 else (Int.fdiv (last - first) step + 1).toNat
    let shown := (List.range count).map fun i : Nat => toString (first + step * i)
    if count ≠ 0 then say 1 (separator.intercalate shown ++ "\n")
  match args.mapM wholeNumber? with
  | some [last] => run 1 1 last
  | some [first, last] => run first 1 last
  | some [first, step, last] => run first step last
  | _ =>
    match args with
    | [] => misuse "seq" "missing operand"
    | arg :: _ => misuse "seq" ("invalid floating point argument: " ++ quote arg)

def cmp (args : List String) : Script Unit :=
  withOptions "cmp" { plain := "sl" } args (fun o => do
    let fail (path : String) (fault : Disk.Fault) : Script Unit := do
      if !o.has 's' then report "cmp" (path ++ ": " ++ faultText fault)
      setStatus 2
    if o.operands.isEmpty then
      say 2 "cmp: missing operand after 'cmp'\ncmp: Try 'cmp --help' for more information.\n"
      setStatus 2
      return
    let first := o.operands.headD "-"
    let second := o.operands.tail.headD "-"
    match ← content first with
    | .error fault => fail first fault
    | .ok a =>
      match ← content second with
      | .error fault => fail second fault
      | .ok b =>
        let same := ((a.zip b).takeWhile fun (x, y) => x = y).length
        if a ≠ b then
          setStatus 1
          if o.has 's' then pure ()
          else if same = min a.length b.length then
            let shorter := if a.length < b.length then first else second
            let start := a.take same
            let line := start.count '\n' + if start.getLast? = some '\n' then 0 else 1
            let where_ := if same = 0 then " which is empty\n"
              else " after byte " ++ toString same ++ ", in line " ++ toString line ++ "\n"
            say 2 ("cmp: EOF on " ++ shorter ++ where_)
          else
            let line := (a.take same).count '\n' + 1
            say 1 (first ++ " " ++ second ++ " differ: char " ++ toString (same + 1) ++
              ", line " ++ toString line ++ "\n")) 2

end Script
end RouteSync.Rehearsal.Shell
