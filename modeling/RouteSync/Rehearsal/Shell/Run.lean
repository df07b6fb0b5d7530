import RouteSync.Rehearsal.Shell.Process

/-! Running commands. Each kind of command has its own step, which leaves the commands inside to the
runner that it is given; the runner itself is made from the steps for any depth. -/
namespace RouteSync.Rehearsal.Shell.Script

/-- A command with its arguments. One that is `plain` is no function, and its faults do not end the
shell. -/
structure Call where
  name : String
  args : List String
  plain : Bool := false

/-- The command that a `command` in front asks for, if it asks for one to be run. -/
def Call.inner (c : Call) : Nat → Call
  | 0 => c
  | n + 1 =>
    if c.name = "command" then
      match c.args with
      | "-p" :: name :: args | "--" :: name :: args => Call.inner ⟨name, args, true⟩ n
      | name :: args => if name.toList.head? = some '-' then c else Call.inner ⟨name, args, true⟩ n
      | [] => c
    else c

/-- What is left for `command` itself: to tell what names stand for. -/
def command (args : List String) : Script Unit := do
  let (found, names) ← options "pvV" "" args
  setStatus 0
  if let some name := names.head? then describe (!found.any (·.1 = 'V')) name

/-- Whether a call is to one of the builtins that end the shell by their faults. -/
def Call.special (c : Call) : Bool := !c.plain && specialBuiltins.contains c.name

/-- Runs a call. -/
def dispatch (self : Runner) (tested : Bool) (c : Call) : Script Unit := do
  let body? ← if c.plain then pure none else function? c.name
  let builtin (run : Script Unit) : Script Unit := asNamed c.name c.special run
  match body?, builtins.find? (·.1 = c.name) with
  | some body, _ => callFunction self tested body c.args
  | none, some (_, run) => builtin (run c.args)
  | none, none =>
    match c.name with
    | "eval" => builtin (runText self tested (" ".intercalate c.args).toList)
    | "." => builtin (source self c.args)
    | "exec" => builtin (exec self c.args)
    | "command" => builtin (command c.args)
    | "type" => builtin (describeAll c.args)
    | name => program self name c.args

/-- The arguments of a call. Those that set a variable for a builtin are not split. -/
def callArguments (capture : Capture) : List Word → Script (List String)
  | [] => return []
  | w :: ws => do
    match ← arguments capture [w] with
    | [] => callArguments capture ws
    | name :: more =>
      if settingBuiltins.contains name then
        let rest ← ws.mapM fun w => do
          match setting? w with
          | some (name, value) => return [name ++ "=" ++ (← text capture value)]
          | none => arguments capture [w]
        return name :: more ++ rest.flatten
      else return name :: more ++ (← arguments capture ws)

/-- Sets variables before a call; tells what they were before. -/
def setBefore (capture : Capture) (exported : Bool) :
    List (String × Word) → Script (List (String × Option Variable) × List String)
  | [] => return ([], [])
  | (name, w) :: rest => do
    let value ← text capture w
    let old ← lookup? name
    assign name value
    if exported then changeVariable name fun v => { v with exported := true }
    let (more, shown) ← setBefore capture exported rest
    return (more ++ [(name, old)], (name ++ "=" ++ value) :: shown)

/-- A command of words: its arguments, redirections and settings, in this order, and then what its
first word stands for. -/
def simple (self : Runner) (tested : Bool) (settings : List (String × Word)) (words : List Word)
    (rs : List Redirection) : Script Unit := do
  modify fun s => { s with outputStatus := none }
  let capture := capture self
  let args ← callArguments capture words
  let channels := (← get).channels
  let call? := args.head?.map fun name => Call.inner ⟨name, args.tail, false⟩ args.length
  let special := call?.any Call.special
  let keeps := call?.any fun c => c.name = "exec"
  if ← redirectAll capture rs then
    let run : Script Unit := do
      let (saved, shown) ← setBefore capture (call?.isSome && !special) settings
      if (← get).switches.shown && !(shown.isEmpty && args.isEmpty) then
        let now := (← get).channels
        setChannels channels
        say 2 ("+ " ++ " ".intercalate (shown ++ args) ++ "\n")
        setChannels now
      match call? with
      | none => setStatus ((← get).outputStatus.getD 0)
      | some c => afterwards (dispatch self tested c) (if special then pure () else restore saved)
    if keeps then run else afterwards run (setChannels channels)
  else
    setChannels channels
    setStatus 2
    if special then throw (.fault 2)

/-- Commands one after another, each reading what the one before wrote. All of them start with the
same status. -/
def pipeline (self : Runner) (tested : Bool) (status : Nat) (input : Option (List Char)) :
    List Command → Script Unit
  | [] => pure ()
  | command :: rest => do
    let n ← openGather
    part self do
      setStatus status
      if let some chars := input then
        let c ← openSource { source := .text chars }
        setChannel 0 (some c)
      if !rest.isEmpty then setChannel 1 (some (.gather n))
      self tested command
    if !rest.isEmpty then pipeline self tested status (some (← gatheredIn n)) rest

/-- One turn of a loop; tells whether the loop goes on. -/
def turnOf (body : Script Unit) : Script Bool := do
  try
    body
    return true
  catch
    | .break n => if 1 < n then throw (.break (n - 1)) else return false
    | .continue n => if 1 < n then throw (.continue (n - 1)) else return true
    | stop => throw stop

def inLoop (run : Script Unit) : Script Unit := do
  modify fun s => { s with loops := s.loops + 1 }
  afterwards run (modify fun s => { s with loops := s.loops - 1 })

/-- How often a loop turns at most. -/
def maxTurns : Nat := 1000000

/-- Turns as long as the condition ends as it should. The status is that of the last turn. -/
def loop (condition : Script Unit) (whileTrue : Bool) (body : Script Unit) :
    Nat → Nat → Script Unit
  | 0, _ => throw (.killed 9)
  | n + 1, status => do
    if ← turnOf condition then
      if ((← get).status = 0) = whileTrue then
        if ← turnOf body then loop condition whileTrue body n (← get).status
      else setStatus status

/-- Turns once for every value of a variable. -/
def each (name : String) (body : Script Unit) : List String → Script Unit
  | [] => pure ()
  | value :: rest => do
    assign name value
    if ← turnOf body then each name body rest

/-- The commands of the first arm that describes a text. -/
def arm? (capture : Capture) (text : List Char) :
    List (List Word × Option Command) → Script (Option Command)
  | [] => return none
  | (patterns, body) :: rest => do
    let globs ← patterns.mapM fun w => return signsOf (← wordPieces capture w)
    if globs.any (·.fits text) then return body else arm? capture text rest

/-- Runs a command, its inner ones by the runner. -/
def step (self : Runner) (tested : Bool) : Command → Script Unit
  | .simple line settings words rs => do
    modify fun s => { s with line }
    simple self tested settings words rs
    attend (runTrap self)
    check tested
  | .pipe commands => do
    pipeline self tested (← get).status none commands
    attend (runTrap self)
    check tested
  | .apart body => do
    part self (self tested body)
    attend (runTrap self)
    check tested
  | .background body => do
    let number := (← get).nextNumber
    modify fun s => { s with nextNumber := number + 1 }
    part self do
      let c ← openSource { source := .null }
      setChannel 0 (some c)
      self false body
    modify fun s => { s with jobs := (number, s.status) :: s.jobs, status := 0 }
    attend (runTrap self)
  | .not body => do
    self true body
    modify fun s => { s with status := if s.status = 0 then 1 else 0 }
  | .and first second => do
    self true first
    if (← get).status = 0 then self tested second
  | .or first second => do
    self true first
    if (← get).status ≠ 0 then self tested second
  | .then first second => do
    self tested first
    self tested second
  | .within line body rs => do
    modify fun s => { s with line }
    let channels := (← get).channels
    if ← redirectAll (capture self) rs then afterwards (self tested body) (setChannels channels)
    else
      setChannels channels
      setStatus 2
      check tested
  | .branch condition yes no => do
    self true condition
    if (← get).status = 0 then self tested yes
    else
      match no with
      | some no => self tested no
      | none => setStatus 0
  | .loop condition whileTrue body =>
    inLoop (loop (self true condition) whileTrue (self tested body) maxTurns 0)
  | .each line name words body => do
    modify fun s => { s with line }
    let values ← match words with
      | some words => arguments (capture self) words
      | none => pure (← get).args
    if values.isEmpty then setStatus 0
    inLoop (each name (self tested body) values)
  | .case line word arms => do
    modify fun s => { s with line }
    let word ← text (capture self) word
    match ← arm? (capture self) word.toList arms with
    | some body => self tested body
    | none => setStatus 0
  | .define name body =>
    modify fun s => { s with
      functions := (name, body) :: s.functions.filter (·.1 ≠ name), status := 0 }

/-- Runs commands that lie within one another up to a depth; a deeper one ends the shell as if
memory had run out. -/
def run : Nat → Runner
  | 0, _, _ => throw (.killed 11)
  | n + 1, tested, command => do
    if !(← get).switches.unmoved then step (run n) tested command

def maxDepth : Nat := 20000

end RouteSync.Rehearsal.Shell.Script
