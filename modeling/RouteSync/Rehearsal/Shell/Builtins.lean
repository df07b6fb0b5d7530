import RouteSync.Rehearsal.Shell.Condition
import RouteSync.Rehearsal.Shell.Expand
import RouteSync.Rehearsal.Shell.Print
import RouteSync.Rehearsal.Shell.Signals
import RouteSync.Rehearsal.Shell.Tools.Files

/-! What the shell does itself, without running other commands. -/
namespace RouteSync.Rehearsal.Shell

/-- Builtins whose faults end the shell, and which keep what is set before them. -/
def specialBuiltins : List String := [".", ":", "break", "continue", "eval", "exec", "exit",
  "export", "local", "readonly", "return", "set", "shift", "times", "trap", "unset"]

/-- Builtins that take settings for arguments. -/
def settingBuiltins : List String := ["export", "local", "readonly"]

namespace Script

/-- What a builtin writes. -/
def output (text : String) : Script Unit := do
  if !text.isEmpty && !(← write? 1 text.toList) then
    complain (((← get).builtin.getD "") ++ ": I/O error")
    setStatus 1

/-- The letters in one argument, and whether the last one wants a value that is not in it. -/
def optionLetters (plain valued : String) :
    List Char → Script (List (Char × String) × Option Char)
  | [] => return ([], none)
  | c :: rest => do
    if valued.toList.contains c then
      return if rest.isEmpty then ([], some c) else ([(c, String.ofList rest)], none)
    else if plain.toList.contains c then
      let (more, wants) ← optionLetters plain valued rest
      return ((c, "") :: more, wants)
    else fatal ("Illegal option -" ++ String.ofList [c])

/-- The options before the first other argument, and the arguments from it on. -/
def options (plain valued : String) : List String → Script (List (Char × String) × List String)
  | [] => return ([], [])
  | "--" :: rest => return ([], rest)
  | arg :: rest => do
    match arg.toList with
    | '-' :: c :: cs =>
      let (found, wants) ← optionLetters plain valued (c :: cs)
      match wants, rest with
      | none, rest =>
        let (more, rest) ← options plain valued rest
        return (found ++ more, rest)
      | some letter, value :: rest =>
        let (more, rest) ← options plain valued rest
        return (found ++ (letter, value) :: more, rest)
      | some letter, [] => fatal ("No arg for -" ++ String.ofList [letter] ++ " option")
    | _ => return ([], arg :: rest)

/-- A number that an argument has to be, perhaps with a sign and blanks around it. -/
def number (arg : String) : Script Nat := do
  match (Condition.number.wholeDecimal? arg).bind Int.toNat? with
  | some n => if n ≤ 2147483647 then return n else fatal ("Illegal number: " ++ arg)
  | none => fatal ("Illegal number: " ++ arg)

def exit (args : List String) : Script Unit := do
  match args.head? with
  | some arg => throw (.exit (← number arg))
  | none => throw (.exit (← get).status)

def return_ (args : List String) : Script Unit := do
  if let some arg := args.head? then
    let n ← number arg
    setStatus n
  throw .return

/-- Leaves so many loops, or goes on with the last of them. -/
def leave (stop : Nat → Stop) (args : List String) : Script Unit := do
  let n ← match args.head? with
    | some arg => do
      let n ← number arg
      if n = 0 then fatal ("Illegal number: " ++ arg) else pure n
    | none => pure 1
  setStatus 0
  let loops := (← get).loops
  if loops ≠ 0 then throw (stop (min n loops))

def shift (args : List String) : Script Unit := do
  let n ← match args.head? with
    | some arg => number arg
    | none => pure 1
  let s ← get
  if s.args.length < n then fatal "can't shift that many"
  set { s with args := s.args.drop n, status := 0 }

/-- An argument as a name, with a value if it sets one. -/
def named (arg : String) : Script (String × Option String) := do
  let cs := arg.toList
  let name := String.ofList (cs.takeWhile (· ≠ '='))
  if !isName name then fatal (name ++ ": bad variable name")
  let value := String.ofList (cs.drop (name.length + 1))
  return (name, if name.length < cs.length then some value else none)

def changeVariable (name : String) (change : Variable → Variable) : Script Unit := do
  setVariable (change ((← lookup? name).getD { name, value := none }))

/-- Lists the variables that have a mark, as commands that set it again. -/
def listVariables (command : String) (marked : Variable → Bool) : Script Unit := do
  let found := ((← get).bindings.filter marked).mergeSort fun a b => !decide (b.name < a.name)
  for v in found do
    let value := (v.value.map fun value => "=" ++ quotedText value).getD ""
    output (command ++ v.name ++ value ++ "\n")

/-- Marks variables, and sets those that come with a value. -/
def mark (builtin : String) (marked : Variable → Bool) (change : Variable → Variable)
    (args : List String) : Script Unit := do
  let (found, names) ← options "p" "" args
  setStatus 0
  if names.isEmpty || !found.isEmpty then listVariables (builtin ++ " ") marked
  else
    for arg in names do
      let (name, value?) ← named arg
      if let some value := value? then assign name value
      changeVariable name change

def export_ : List String → Script Unit :=
  mark "export" Variable.exported fun v => { v with exported := true }

def readonly : List String → Script Unit :=
  mark "readonly" Variable.fixed fun v => { v with fixed := true }

/-- Variables of the function under way: what they were before comes back after it. -/
def local_ (args : List String) : Script Unit := do
  match (← get).locals with
  | [] => fatal "not in a function"
  | own :: others =>
    setStatus 0
    let mut own := own
    for arg in args do
      let (name, value?) ← named arg
      let old ← lookup? name
      if !own.any (·.1 = name) then own := own ++ [(name, old)]
      if let some value := value? then assign name value
    let kept := own
    modify fun s => { s with locals := kept :: others }

/-- Puts variables back. -/
def restore (saved : List (String × Option Variable)) : Script Unit := do
  for (name, old) in saved do
    modify fun s => { s with
      bindings := s.bindings.filter (·.name ≠ name) ++ old.toList }

def unset_ (args : List String) : Script Unit := do
  let (found, names) ← options "vf" "" args
  setStatus 0
  for name in names do
    if found.any (·.1 = 'f') then
      modify fun s => { s with functions := s.functions.filter (·.1 ≠ name) }
    else
      if !isName name then fatal (name ++ ": bad variable name")
      match ← lookup? name with
      | some v =>
        if v.fixed then fatal (name ++ ": is read only")
        modify fun s => { s with bindings := s.bindings.filter (·.name ≠ name) }
      | none => pure ()

/-- The switches that have both a letter and a name, and how each is turned. -/
def switches : List (Char × String × (Bool → Switches → Switches)) :=
  [('a', "allexport", fun on s => { s with exportAll := on }),
    ('e', "errexit", fun on s => { s with strict := on }),
    ('f', "noglob", fun on s => { s with noPatterns := on }),
    ('n', "noexec", fun on s => { s with unmoved := on }),
    ('C', "noclobber", fun on s => { s with noClobber := on }),
    ('u', "nounset", fun on s => { s with noUnset := on }),
    ('x', "xtrace", fun on s => { s with shown := on })]

/-- Switches that make no difference to a script. -/
def idleSwitches : List (Char × String) := [('b', "notify"), ('m', "monitor"), ('I', "ignoreeof"),
  ('V', "vi"), ('E', "emacs"), ('p', "privileged"), ('v', "verbose"), ('s', "stdin")]

def turn (on : Bool) (letter : Char) : Script Unit := do
  match switches.find? (·.1 = letter) with
  | some (_, _, change) => modify fun s => { s with switches := change on s.switches }
  | none =>
    if !idleSwitches.any (·.1 = letter) then
      fatal ("Illegal option " ++ String.ofList [if on then '-' else '+', letter])

def turnNamed (on : Bool) (name : String) : Script Unit := do
  match switches.find? (·.2.1 = name) with
  | some (letter, _, _) => turn on letter
  | none =>
    if !idleSwitches.any (·.2 = name) then
      fatal ("Illegal option " ++ (if on then "-o " else "+o ") ++ name)

/-- Turns switches by letters; tells whether an `o` is left whose name is to come. -/
def turnLetters (on : Bool) : List Char → Script Bool
  | [] => return false
  | c :: cs => do
    if c = 'o' then
      let _ ← turnLetters on cs
      return true
    else
      turn on c
      turnLetters on cs

/-- Turns switches up to the first other argument; tells the arguments from there on, if they are to
be the script's own. -/
def turnSwitches : List String → Script (Option (List String))
  | [] => return none
  | "--" :: rest => return some rest
  | "-" :: rest => return if rest.isEmpty then none else some rest
  | arg :: rest => do
    let go (on : Bool) (letters : List Char) : Script (Option (List String)) := do
      if ← turnLetters on letters then
        match rest with
        | name :: rest =>
          turnNamed on name
          turnSwitches rest
        | [] => return none
      else turnSwitches rest
    match arg.toList with
    | '-' :: letters => go true letters
    | '+' :: letters => go false letters
    | _ => return some (arg :: rest)

def set_ (args : List String) : Script Unit := do
  setStatus 0
  if args.isEmpty then listVariables "" fun v => v.value.isSome
  else if let some own ← turnSwitches args then modify fun s => { s with args := own }

def trap (args : List String) : Script Unit := do
  let (_, args) ← options "" "" args
  setStatus 0
  let (command?, names) := match args with
    | [] => (none, [])
    | [only] => (none, [only])
    | first :: rest =>
      if (Text.natural? first.toList).isSome then (none, first :: rest)
      else (if first = "-" then none else some first, rest)
  if args.isEmpty then listTraps
  for name in names do
    if (← get).status = 0 then
      match signal? 0 name with
      | some signal =>
        modify fun s => { s with
          traps := (match command? with
            | some command => [(signal, command)]
            | none => []) ++ s.traps.filter (·.1 ≠ signal) }
      | none =>
        say 2 ("trap: " ++ name ++ ": bad trap\n")
        setStatus 1

def killUsage : String :=
  "Usage: kill [-s sigspec | -signum | -sigspec] [pid | job]... or\nkill -l [exitstatus]"

def sendAll (signal : Nat) : List String → Script Unit
  | [] => pure ()
  | arg :: rest => do
    let sent ← match arg.toList with
      | '%' :: _ => fatal ("No such job: " ++ arg)
      | '-' :: digits => do
        let _ ← number (String.ofList digits)
        pure false
      | _ => do send (← number arg) signal
    if !sent then
      complain "No such process\n"
      setStatus 1
    sendAll signal rest

/-- Lists the names of signals, or tells the one of a number or of an exit status. -/
def listSignals (args : List String) : Script Unit := do
  match args with
  | [] => output (String.join ("0\n" :: (signalNames.drop 1).map (· ++ "\n")))
  | arg :: _ =>
    let n ← number arg
    let n := if 128 < n then n - 128 else n
    match signalNames[n]?.filter (· ≠ "EXIT") with
    | some name => output (name ++ "\n")
    | none => fatal ("invalid signal number or exit status: " ++ arg)

def kill (args : List String) : Script Unit := do
  setStatus 0
  let (signal?, listed, targets) ← match args with
    | [] => fatal killUsage
    | arg :: rest =>
      match arg.toList with
      | '-' :: name =>
        match signal? 1 (String.ofList name) with
        | some signal => pure (some signal, false, rest)
        | none => do
          let (found, rest) ← options "l" "s" args
          let listed := found.any (·.1 = 'l')
          match found.find? (·.1 = 's') with
          | some (_, name) =>
            match signal? 1 name with
            | some signal => pure (some signal, listed, rest)
            | none => fatal ("invalid signal number or name: " ++ name)
          | none => pure (none, listed, rest)
      | _ => pure (none, false, args)
  if listed then
    if signal?.isSome then fatal killUsage else listSignals targets
  else if targets.isEmpty then fatal killUsage
  else sendAll (signal?.getD 15) targets

/-- The path of the folder where the shell is. -/
def place (d : Disk) : String := "/" ++ "/".intercalate (d.here.map ofPath)

def pwd (args : List String) : Script Unit := do
  let _ ← options "LP" "" args
  setStatus 0
  output (place (← get).disk ++ "\n")

def cd (args : List String) : Script Unit := do
  let (_, args) ← options "LP" "" args
  setStatus 0
  let home := (← value? "HOME").getD ""
  let before := place (← get).disk
  let last := (← value? "OLDPWD").getD ""
  let shown := args.head? = some "-"
  let path := if shown then last else args.headD home
  if !path.isEmpty then
    let s ← get
    match s.disk.locate (pathOf path) with
    | .ok place =>
      if s.disk.get? place = some .folder then
        set { s with disk := { s.disk with here := place } }
      else fatal ("can't cd to " ++ path)
    | .error _ => fatal ("can't cd to " ++ path)
  assign "OLDPWD" before
  assign "PWD" (place (← get).disk)
  if shown then output (place (← get).disk ++ "\n")

/-- The rights that a mask leaves, spelled out. -/
def rightsText (mask : Nat) : String :=
  let letters (shift : Nat) : String :=
    let bits := (0o777 - mask) / shift
    String.ofList ([(4, 'r'), (2, 'w'), (1, 'x')].filterMap fun (bit, c) =>
      if bits &&& bit ≠ 0 then some c else none)
  "u=" ++ letters 64 ++ ",g=" ++ letters 8 ++ ",o=" ++ letters 1

def octal (width n : Nat) : String :=
  let digits := Nat.toDigits 8 n
  String.ofList (List.replicate (width - digits.length) '0' ++ digits)

def umask (args : List String) : Script Unit := do
  let (found, args) ← options "S" "" args
  setStatus 0
  let mask := (← get).mask
  match args.head? with
  | none =>
    output ((if found.isEmpty then octal 4 mask else rightsText mask) ++ "\n")
  | some text =>
    let rights := 0o777 - mask
    let digits := text.toList.head?.any Char.isDigit
    match mode? 0 rights text with
    | some n =>
      modify fun s => { s with mask := if digits then n % 512 else 0o777 - n % 512 }
    | none => fatal ((if digits then "Illegal number: " else "Illegal mode: ") ++ text)

/-- A line, in which a backslash takes the meaning of the character after it, and whether it has an
end; what follows the line, too. -/
def takeLine (raw : Bool) : List Char → Glob × Bool × List Char
  | [] => ([], false, [])
  | '\n' :: rest => ([], true, rest)
  | '\\' :: c :: rest =>
    if raw then
      let (line, ended, rest) := takeLine raw (c :: rest)
      (⟨'\\', false⟩ :: line, ended, rest)
    else if c = '\n' then takeLine raw rest
    else
      let (line, ended, rest) := takeLine raw rest
      (⟨c, true⟩ :: line, ended, rest)
  | c :: rest =>
    if c = '\x00' then takeLine raw rest
    else
      let (line, ended, rest) := takeLine raw rest
      (⟨c, false⟩ :: line, ended, rest)

/-- A line as the values of so many variables, the last of which takes what is left. -/
def lineFields (separators : List Char) (line : Glob) : Nat → List String
  | 0 => []
  | n + 1 =>
    let ends (s : Sign) : Bool := !s.quoted && separators.contains s.char
    let blank (s : Sign) : Bool := ends s && isBlankByte s.char
    let line := line.dropWhile blank
    let first := line.takeWhile (!ends ·)
    let rest := (line.drop first.length).dropWhile blank
    let rest := match rest with
      | s :: after => if ends s then after.dropWhile blank else rest
      | [] => []
    if n = 0 then
      let whole := (line.reverse.dropWhile blank).reverse
      [Glob.text (if rest.isEmpty then first else whole)]
    else Glob.text first :: lineFields separators rest n

def read (args : List String) : Script Unit := do
  let (found, names) ← options "r" "p" args
  if names.isEmpty then fatal "arg count"
  let text ← left 0
  let (line, ended, rest) := takeLine (found.any (·.1 = 'r')) text
  advance 0 (text.length - rest.length)
  setStatus (if ended then 0 else 1)
  for (name, value) in names.zip (lineFields (← separators) line names.length) do
    if !isName name then fatal (name ++ ": bad variable name")
    assign name value

/-- A complaint of `getopts`, which has no name before it. -/
def optionComplaint (silent : Bool) (text : String) : Script Unit := do
  if !silent then say 2 (text ++ "\n")

def getopts (args : List String) : Script Unit := do
  match args with
  | known :: name :: given =>
    let own ← if given.isEmpty then pure (← get).args else pure given
    let at_ := ((← value? "OPTIND").bind fun n => Text.natural? n.toList).getD 1
    let letterAt := max 1 (← get).optionLetter
    let silent := known.toList.head? = some ':'
    let finish (status : Nat) (letter : String) (value : Option String) (next letterNext : Nat) :
        Script Unit := do
      match value with
      | some value => assign "OPTARG" value
      | none =>
        modify fun s => { s with bindings := s.bindings.filter (·.name ≠ "OPTARG") }
      assign "OPTIND" (toString next)
      modify fun s => { s with optionLetter := letterNext }
      if !isName name then fatal (name ++ ": bad variable name")
      assign name letter
      setStatus status
    let done (next : Nat) : Script Unit := finish 1 "?" none next 0
    match own[at_ - 1]? with
    | none => done at_
    | some arg =>
      let cs := arg.toList
      if arg = "--" then done (at_ + 1)
      else if cs.head? ≠ some '-' || cs.length < 2 then done at_
      else
        let c := cs[letterAt]?.getD '?'
        let rest := cs.drop (letterAt + 1)
        let (next, letterNext) := if rest.isEmpty then (at_ + 1, 0) else (at_, letterAt + 1)
        let letter := String.ofList [c]
        match (known.toList.dropWhile (· ≠ c)).drop 1 with
        | ':' :: _ =>
          if c = ':' then finish 0 "?" (if silent then some letter else none) next letterNext
          else if !rest.isEmpty then finish 0 letter (some (String.ofList rest)) (at_ + 1) 0
          else match own[at_]? with
            | some value => finish 0 letter (some value) (at_ + 2) 0
            | none =>
              optionComplaint silent ("No arg for -" ++ letter ++ " option")
              finish 0 (if silent then ":" else "?") (if silent then some letter else none)
                (at_ + 1) 0
        | _ =>
          if known.toList.contains c && c ≠ ':' then finish 0 letter (some "") next letterNext
          else
            optionComplaint silent ("Illegal option -" ++ letter)
            finish 0 "?" (if silent then some letter else none) next letterNext
  | _ => fatal "Usage: getopts optstring var [arg...]"

def condition (args : List String) : Script Unit := do
  match holds (← get).disk (args.length + 1) args with
  | .ok true => setStatus 0
  | .ok false => setStatus 1
  | .error what => fatal what

/-- A condition that ends with a bracket. -/
def bracketCondition (args : List String) : Script Unit := do
  if args.getLast? = some "]" then condition args.dropLast else fatal "missing ]"

def print (args : List String) : Script Unit := do
  let (_, args) ← options "" "" args
  match args with
  | [] => fatal "usage: printf format [arg ...]"
  | form :: args =>
    let p := formatted form args
    setStatus (if p.faults.isEmpty then 0 else 1)
    let last := p.ended.join
    for fault in p.faults.reverse ++ last.toList do
      complain fault
    output (String.ofList p.text.reverse.flatten)
    if last.isSome then throw (.fault 2)

def wait (args : List String) : Script Unit := do
  setStatus 0
  for arg in args do
    match arg.toList with
    | '%' :: _ => fatal ("No such job: " ++ arg)
    | _ => setStatus ((get? (← number arg) (← get).jobs).getD 127)

/-- The builtins that need no other commands. -/
def builtins : List (String × (List String → Script Unit)) :=
  [(":", fun _ => setStatus 0), ("true", fun _ => setStatus 0), ("false", fun _ => setStatus 1),
    ("exit", exit), ("return", return_), ("break", leave .break), ("continue", leave .continue),
    ("shift", shift), ("export", export_), ("readonly", readonly), ("local", local_),
    ("unset", unset_), ("set", set_), ("trap", trap), ("kill", kill), ("cd", cd), ("chdir", cd),
    ("pwd", pwd), ("umask", umask), ("read", read), ("getopts", getopts), ("test", condition),
    ("[", bracketCondition), ("printf", print), ("wait", wait),
    ("echo", fun args => do setStatus 0; output (String.ofList (echo args))),
    ("times", fun _ => do
      setStatus 0
      output "0m0.000000s 0m0.000000s\n0m0.000000s 0m0.000000s\n"),
    ("fg", fun _ => fatal "No current job"), ("bg", fun _ => fatal "No current job"),
    ("jobs", fun _ => setStatus 0), ("hash", fun _ => setStatus 0),
    ("alias", fun _ => setStatus 0),
    ("unalias", fun args => do
      setStatus (if args.isEmpty then 0 else 1)
      for arg in args do
        say 2 ("unalias: " ++ arg ++ " not found\n")),
    ("ulimit", fun _ => do setStatus 0; output "unlimited\n")]

end Script
end RouteSync.Rehearsal.Shell
