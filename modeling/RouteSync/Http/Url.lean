import RouteSync.Http.Url.Host
import RouteSync.Text.Digits

/-! Web addresses: reading them, and the one spelling that each of them has. -/
namespace RouteSync.Http

structure Url where
  secure : Bool
  host : UrlHost
  /-- A port other than that of the scheme. -/
  port : Option Nat
  path : List (List Char)
  query : Option (List Char)
  fragment : Option (List Char)
  deriving DecidableEq, Inhabited

namespace Url

def isControl (c : Char) : Bool := c.toNat < 32

/-- The text of an address without what means nothing: controls and spaces around it, and tabs and
line ends anywhere. -/
def bare (text : String) : List Char :=
  let isOutside (c : Char) : Bool := isControl c || c = ' '
  let cs := (text.toList.dropWhile isOutside).reverse.dropWhile isOutside
  cs.reverse.filter fun c => !("\t\n\r".toList.contains c)

/-- The scheme in small letters, and what follows its colon. -/
def scheme? (cs : List Char) : Option (String × List Char) :=
  let name := cs.takeWhile fun c => c.isAlphanum || "+-.".toList.contains c
  match name, cs.drop name.length with
  | first :: _, ':' :: rest =>
    if first.isAlpha then some (String.ofList (name.map Char.toLower), rest) else none
  | _, _ => none

def isSlash (c : Char) : Bool := c = '/' || c = '\\'

def endsAuthority (c : Char) : Bool := isSlash c || c = '?' || c = '#'

/-- What follows the last at sign. -/
def afterUser (authority : List Char) : List Char :=
  (authority.reverse.takeWhile (· ≠ '@')).reverse

/-- The part before the first colon outside brackets, and the colon with what follows. -/
def splitPort (inside : Bool) : List Char → List Char × List Char
  | [] => ([], [])
  | c :: rest =>
    if c = ':' && !inside then ([], c :: rest)
    else
      let (part, after) := splitPort (c = '[' || (inside && c ≠ ']')) rest
      (c :: part, after)

/-- The port after a colon, unless it is that of the scheme or not written at all. -/
def portOf (standard : Nat) : List Char → Except UrlFault (Option Nat)
  | [] | [_] => .ok none
  | _ :: ds =>
    match Text.natural? ds with
    | some n => if n ≤ 65535 then .ok (if n = standard then none else some n) else .error .port
    | none => .error .port

def hexText (b : UInt8) : List Char :=
  (Nat.toDigits 16 (b.toNat + 256)).tail.map Char.toUpper

/-- Writes the characters that cannot stand for themselves as bytes after percent signs. -/
def escaped (refused : String) (cs : List Char) : List Char :=
  cs.flatMap fun c =>
    if isControl c || 126 < c.toNat || refused.toList.contains c then
      (Text.Utf8.bytes (String.ofList [c])).flatMap fun b => '%' :: hexText b
    else [c]

/-- A part of a path that stays where it is. -/
def isHere (part : List Char) : Bool :=
  [".", "%2e"].contains (String.ofList (part.map Char.toLower))

/-- A part of a path that leads one up. -/
def isUp (part : List Char) : Bool :=
  ["..", ".%2e", "%2e.", "%2e%2e"].contains (String.ofList (part.map Char.toLower))

/-- Follows the parts of a path; those on the way stand last first. -/
def follow (way : List (List Char)) : List (List Char) → List (List Char)
  | [] => way.reverse
  | part :: parts =>
    let way := if isUp part then way.tail else way
    if isUp part || isHere part then follow (if parts.isEmpty then [] :: way else way) parts
    else follow (escaped " \"<>\x60#?\x7b\x7d" part :: way) parts

/-- The path in order; what stands before its first slash is empty. -/
def pathOf (cs : List Char) : List (List Char) :=
  follow [] ((Text.splitOn '/' (cs.map fun c => if c = '\\' then '/' else c)).drop 1)

/-- What stands before a mark, and what after it. -/
def cut (mark : Char) (cs : List Char) : List Char × Option (List Char) :=
  match Text.splitFirst? mark cs with
  | some (before, after) => (before, some after)
  | none => (cs, none)

/-- Scheme, host and port, with the root path. -/
def origin (u : Url) : String :=
  let port := (u.port.map fun n => ":" ++ toString n).getD ""
  (if u.secure then "https://" else "http://") ++ u.host.text ++ port ++ "/"

def text (u : Url) : String :=
  let part (mark : String) (cs? : Option (List Char)) : String :=
    (cs?.map fun cs => mark ++ String.ofList cs).getD ""
  u.origin ++ String.ofList (List.intercalate ['/'] u.path) ++ part "?" u.query ++
    part "#" u.fragment

/-- What follows the colon of the scheme: host, port, path, query and fragment. Who calls is not
part of the address. -/
def afterScheme (secure : Bool) (cs : List Char) : Except UrlFault Url := do
  let cs := cs.dropWhile isSlash
  let authority := cs.takeWhile (!endsAuthority ·)
  let (hostText, portText) := splitPort false (afterUser authority)
  if hostText.isEmpty then throw .emptyHost
  let host ← UrlHost.ofChars hostText
  let port ← portOf (if secure then 443 else 80) portText
  let (rest, fragment) := cut '#' (cs.drop authority.length)
  let (path, query) := cut '?' rest
  let u : Url := {
    secure, host, port
    path := pathOf path
    query := query.map (escaped " \"#<>'")
    fragment := fragment.map (escaped " \"<>\x60") }
  if host.text.toList.any UrlHost.isUnfit then throw (.unfit u.text) else return u

def ofText (text : String) : Except UrlFault Url :=
  match scheme? (bare text) with
  | none => .error .noScheme
  | some (scheme, rest) =>
    if scheme = "http" then afterScheme false rest
    else if scheme = "https" then afterScheme true rest
    else .error (.otherScheme text)

end Url
end RouteSync.Http
