import RouteSync.Text.Split

/-! Media types, as a request names the kind of its body. -/
namespace RouteSync.Http

structure MediaType where
  kind : List Char
  subkind : List Char
  /-- What follows the last plus sign. -/
  suffix : Option (List Char)
  deriving DecidableEq, Inhabited

def isTokenChar (c : Char) : Bool :=
  c.isAlphanum || "!#$%&'*+-.^_`|~".toList.contains c

def isQuotedChar (c : Char) : Bool := 31 < c.toNat && c.toNat ≠ 127

/-- What follows the closing quote of a parameter: spaces, and the next parameter or the end. -/
def afterQuoted (cs : List Char) : Option (List Char) :=
  match cs.dropWhile (· = ' ') with
  | [] => some []
  | ';' :: rest => some rest
  | _ => none

/-- A quoted value after its opening quote; it holds at least one character of any kind. -/
def quotedValue? : List Char → Option (List Char)
  | [] => none
  | c :: cs =>
    let inner := cs.takeWhile fun c => isQuotedChar c && c ≠ '"'
    match cs.drop inner.length with
    | '"' :: rest => if isQuotedChar c then afterQuoted rest else none
    | _ => none

def plainValue? (cs : List Char) : Option (List Char) :=
  let value := cs.takeWhile isTokenChar
  match cs.drop value.length with
  | [] => some []
  | ';' :: rest => if value.isEmpty then none else some rest
  | _ => none

/-- One parameter, and what follows its semicolon. -/
def parameter? (cs : List Char) : Option (List Char) :=
  let name := cs.takeWhile isTokenChar
  match cs.drop name.length with
  | '=' :: '"' :: rest => if name.isEmpty then none else quotedValue? rest
  | '=' :: rest => if name.isEmpty then none else plainValue? rest
  | _ => none

/-- Whether only parameters follow; spaces may stand before each. -/
def parametersFollow : Nat → List Char → Bool
  | 0, cs => cs.isEmpty
  | steps + 1, cs =>
    match cs.dropWhile (· = ' ') with
    | [] => true
    | cs =>
      match parameter? cs with
      | some rest => parametersFollow steps rest
      | none => false

/-- The last plus sign that is not the first character starts the suffix. -/
def splitSuffix (cs : List Char) : List Char × Option (List Char) :=
  let suffix := (cs.reverse.takeWhile (· ≠ '+')).reverse
  let before := cs.length - suffix.length - 1
  if suffix.length < cs.length ∧ 0 < before then (cs.take before, some suffix)
  else (cs, none)

def isHeaderChar (c : Char) : Bool := (32 ≤ c.toNat && c.toNat < 127) || c = '\t'

def MediaType.ofString? (s : String) : Option MediaType :=
  let cs := s.toList
  let kind := cs.takeWhile isTokenChar
  if kind.isEmpty || !cs.all isHeaderChar then none
  else
    match cs.drop kind.length with
    | '/' :: cs =>
      let subkind := cs.takeWhile isTokenChar
      let sound := match cs.drop subkind.length with
        | [] => true
        | ';' :: rest => !subkind.isEmpty && parametersFollow (rest.length + 1) rest
        | _ => false
      let (plain, suffix) := splitSuffix (subkind.map Char.toLower)
      if sound then some ⟨kind.map Char.toLower, plain, suffix⟩ else none
    | _ => none

def MediaType.isJson (m : MediaType) : Bool :=
  m.kind = "application".toList &&
    (m.subkind = "json".toList || m.suffix = some "json".toList)

end RouteSync.Http
