import RouteSync.Rehearsal.Shell.Sum

/-! What printing commands make of their arguments. -/
namespace RouteSync.Rehearsal.Shell

def isOctal (c : Char) : Bool := '0' ≤ c && c ≤ '7'

def control? : Char → Option Char
  | 'a' => some '\x07'
  | 'b' => some '\x08'
  | 'e' => some '\x1b'
  | 'f' => some '\x0c'
  | 'n' => some '\n'
  | 'r' => some '\r'
  | 't' => some '\t'
  | 'v' => some '\x0b'
  | '\\' => some '\\'
  | _ => none

/-- What follows a backslash: a letter, or up to three octal digits. Anything else keeps its
backslash. -/
def escape (input : List Char) : Char × List Char :=
  match input with
  | [] => ('\\', [])
  | c :: rest =>
    match control? c with
    | some control => (control, rest)
    | none =>
      let ds := (input.take 3).takeWhile isOctal
      if ds.isEmpty then ('\\', input)
      else (Char.ofNat (ds.foldl (fun n c => n * 8 + (c.toNat - 48)) 0 % 256), input.drop ds.length)

/-- A text with escapes in it. A zero may stand before octal digits, and a backslash before a c ends
all that is printed. -/
def unescaped : Nat → List Char → List Char × Bool
  | 0, _ | _, [] => ([], false)
  | _ + 1, '\\' :: 'c' :: _ => ([], true)
  | n + 1, '\\' :: rest =>
    let rest := match rest with
      | '0' :: d :: after => if isOctal d then d :: after else rest
      | rest => rest
    let (c, rest) := escape rest
    let (more, ended) := unescaped n rest
    (c :: more, ended)
  | n + 1, c :: rest =>
    let (more, ended) := unescaped n rest
    (c :: more, ended)

/-- The arguments with blanks between them, and a line end unless it is not wanted. -/
def echo (args : List String) : List Char :=
  let (wanted, args) := match args with
    | "-n" :: rest => (false, rest)
    | args => (true, args)
  let text := (" ".intercalate args).toList
  let (shown, ended) := unescaped (text.length + 1) text
  if ended || !wanted then shown else shown ++ ['\n']

/-- How a value is to be shown. -/
structure Directive where
  /-- At the left of its width. -/
  left : Bool := false
  plus : Bool := false
  blank : Bool := false
  zeros : Bool := false
  alternate : Bool := false
  width : Nat := 0
  precision : Option Nat := none

/-- Fills a text up to the width. -/
def Directive.pad (d : Directive) (text : List Char) : List Char :=
  let fill := List.replicate (d.width - text.length) ' '
  if d.left then text ++ fill else fill ++ text

/-- Digits with a sign before them. -/
def Directive.number (d : Directive) (sign : List Char) (digits : List Char) : List Char :=
  let digits := match d.precision with
    | some n => List.replicate (n - digits.length) '0' ++ digits
    | none => digits
  if d.zeros && !d.left && d.precision.isNone then
    sign ++ List.replicate (d.width - sign.length - digits.length) '0' ++ digits
  else d.pad (sign ++ digits)

/-- The arguments that are left, and what printing came to so far. -/
structure Printing where
  args : List String
  text : List (List Char) := []
  faults : List String := []
  /-- What ended the printing at once: nothing more to say, or a fault. -/
  ended : Option (Option String) := none

namespace Printing

def put (p : Printing) (text : List Char) : Printing := { p with text := text :: p.text }

/-- The next argument; none where none is left. -/
def next (p : Printing) : Option String × Printing :=
  (p.args.head?, { p with args := p.args.tail })

/-- The number that an argument shows: its first character after a quote, or a whole number. What is
none, or not all of it, is a fault. -/
def integer (p : Printing) : Int × Printing :=
  match p.next with
  | (none, p) => (0, p)
  | (some arg, p) =>
    match arg.toList with
    | [] => (0, p)
    | '"' :: rest | '\'' :: rest => ((rest.headD '\x00').toNat, p)
    | cs =>
      let cs := cs.dropWhile isBlankByte
      let (negative, ds) := match cs with
        | '-' :: rest => (true, rest)
        | '+' :: rest => (false, rest)
        | rest => (false, rest)
      match numeral? ds with
      | none => (0, { p with faults := (arg ++ ": expected numeric value") :: p.faults })
      | some (n, rest) =>
        let n : Int := if negative then -n else n
        let faults := if rest.isEmpty then p.faults
          else (arg ++ ": not completely converted") :: p.faults
        (n, { p with faults })

/-- A width or a precision: written out, or an argument where a star stands. -/
def count (p : Printing) (cs : List Char) : Int × List Char × Printing :=
  match cs with
  | '*' :: rest =>
    let (n, p) := p.integer
    (n, rest, p)
  | cs =>
    let ds := cs.takeWhile Char.isDigit
    (ds.foldl (fun n c => n * 10 + (c.toNat - 48)) 0, cs.drop ds.length, p)

def flags (d : Directive) : List Char → Directive × List Char
  | '-' :: rest => flags { d with left := true } rest
  | '+' :: rest => flags { d with plus := true } rest
  | ' ' :: rest => flags { d with blank := true } rest
  | '0' :: rest => flags { d with zeros := true } rest
  | '#' :: rest => flags { d with alternate := true } rest
  | rest => (d, rest)

def cut (d : Directive) (text : List Char) : List Char :=
  match d.precision with
  | some n => text.take n
  | none => text

def unsigned (d : Directive) (base : Nat) (upper : Bool) (n : Int) : List Char :=
  let n := (n % 18446744073709551616).toNat
  let digits := Nat.toDigits base n
  let mark := if !d.alternate || n = 0 then [] else if base = 16 then ['0', 'x']
    else if base = 8 then ['0'] else []
  let shown := d.number mark digits
  if upper then shown.map Char.toUpper else shown

/-- Shows the next argument as a directive says; its letter is the last character. -/
def convert (p : Printing) (d : Directive) (letter : Char) (spelled : List Char) : Printing :=
  let ofInteger (show_ : Int → List Char) : Printing :=
    let (n, p) := p.integer
    p.put (show_ n)
  let signed (n : Int) : List Char :=
    let sign := if n < 0 then ['-'] else if d.plus then ['+'] else if d.blank then [' '] else []
    d.number sign (Nat.toDigits 10 n.natAbs)
  match letter with
  | 'd' | 'i' => ofInteger signed
  | 'u' => ofInteger (unsigned d 10 false)
  | 'o' => ofInteger (unsigned d 8 false)
  | 'x' => ofInteger (unsigned d 16 false)
  | 'X' => ofInteger (unsigned d 16 true)
  | 's' =>
    let (arg, p) := p.next
    p.put (d.pad (cut d (arg.getD "").toList))
  | 'c' =>
    let (arg, p) := p.next
    p.put (d.pad [(arg.getD "").toList.headD '\x00'])
  | 'b' =>
    let (arg, p) := p.next
    let cs := (arg.getD "").toList
    let (shown, ended) := unescaped (cs.length + 1) cs
    let p := p.put (d.pad (cut d shown))
    if ended then { p with ended := some none } else p
  | _ =>
    { p with ended := some (some ("%" ++ String.ofList spelled ++ ": invalid directive")) }

/-- Goes through the format once. -/
def pass (p : Printing) : Nat → List Char → Printing
  | 0, _ | _, [] => p
  | n + 1, '\\' :: rest =>
    let (c, rest) := escape rest
    (p.put [c]).pass n rest
  | n + 1, '%' :: '%' :: rest => (p.put ['%']).pass n rest
  | n + 1, '%' :: rest =>
    let (d, after) := flags {} rest
    let (width, after, p) := p.count after
    let d := { d with width := width.natAbs, left := d.left || width < 0 }
    let (precision, after, p) := match after with
      | '.' :: after =>
        let (n, after, p) := p.count after
        (if n < 0 then none else some n.toNat, after, p)
      | after => (none, after, p)
    match after with
    | [] => { p with ended := some (some "missing format character") }
    | letter :: after =>
      let p := p.convert { d with precision } letter (rest.take (rest.length - after.length))
      if p.ended.isSome then p else p.pass n after
  | n + 1, c :: rest => (p.put [c]).pass n rest

/-- Goes through the format again as long as it takes arguments and some are left. -/
def passes (form : List Char) : Nat → Printing → Printing
  | 0, p => p
  | n + 1, p =>
    let q := p.pass (form.length + 1) form
    if q.ended.isSome || q.args.isEmpty || q.args.length = p.args.length then q
    else passes form n q

end Printing

/-- What a format makes of arguments. -/
def formatted (form : String) (args : List String) : Printing :=
  Printing.passes form.toList (args.length + 1) { args }

end RouteSync.Rehearsal.Shell
