import RouteSync.Disk.Path

/-! The command line. -/
namespace RouteSync.Command

inductive Invocation where
  | help
  | version
  /-- The command line cannot be understood, or names no settings. -/
  | misuse
  | run (settings : Disk.Path)
  deriving DecidableEq, Inhabited

/-- What an argument with a hyphen asks for. -/
inductive Switch where
  | help
  | version
  /-- The option for the settings, with the value if it is attached. -/
  | settings (value : Option String)
  | unknown
  deriving DecidableEq, Inhabited

def longSwitch (text : List Char) : Switch :=
  let value := match Text.splitFirst? '=' text with
    | some (_, value) => some (String.ofList value)
    | none => none
  match String.ofList (text.takeWhile (· ≠ '=')), value with
  | "help", none => .help
  | "version", none => .version
  | "config", value => .settings value
  | _, _ => .unknown

/-- Short options may stand together; the first one that takes a value takes all the rest. -/
def shortSwitch : List Char → Switch
  | 'h' :: _ => .help
  | 'V' :: _ => .version
  | ['c'] => .settings none
  | 'c' :: '=' :: value => .settings (some (String.ofList value))
  | 'c' :: value => .settings (some (String.ofList value))
  | _ => .unknown

/-- A hyphen alone asks for nothing. -/
def switch? (arg : String) : Option Switch :=
  match arg.toList with
  | '-' :: '-' :: text => some (longSwitch text)
  | '-' :: c :: text => some (shortSwitch (c :: text))
  | _ => none

/-- Takes the arguments from left to right; the first that settles the matter does. The settings may
be named once, and not by an empty path. -/
def scan (named : Option Disk.Path) : List String → Invocation ⊕ Option Disk.Path
  | [] => .inr named
  | ["--"] => .inr named
  | arg :: rest =>
    match switch? arg with
    | none | some .unknown => .inl .misuse
    | some .help => .inl .help
    | some .version => .inl .version
    | some (.settings (some value)) => take value rest
    | some (.settings none) =>
      match rest with
      | [] => .inl .misuse
      | value :: rest => if (switch? value).isSome then .inl .misuse else take value rest
where
  take (value : String) (rest : List String) : Invocation ⊕ Option Disk.Path :=
    if value.isEmpty || named.isSome then .inl .misuse else scan (some value) rest

/-- What a command line asks for. Without settings on it, those of the environment count. -/
def Invocation.ofArgs (args : List String) (environment : Option Disk.Path) : Invocation :=
  match scan none args with
  | .inl settled => settled
  | .inr named =>
    match named.orElse fun _ => environment with
    | some path => if path.isEmpty then .misuse else .run path
    | none => .misuse

end RouteSync.Command
