import RouteSync.Net.Ip
import RouteSync.Text.Punycode
import RouteSync.Text.Split
import RouteSync.Text.Utf8

/-! The hosts of web addresses: names in small letters, and numbers of either size. -/
namespace RouteSync.Http

inductive UrlFault where
  /-- Nothing says how to read the address. -/
  | noScheme
  /-- An address, but of no place in the web. -/
  | otherScheme (text : String)
  | emptyHost
  | host
  | ipv4
  | ipv6
  | port
  /-- The host holds signs that calls cannot carry. -/
  | unfit (text : String)
  deriving DecidableEq, Inhabited

def UrlFault.message : UrlFault → String
  | .noScheme => "builder error: relative URL without a base"
  | .otherScheme text => "builder error for url (" ++ text ++ "): URL scheme is not allowed"
  | .emptyHost => "builder error: empty host"
  | .host => "builder error: invalid international domain name"
  | .ipv4 => "builder error: invalid IPv4 address"
  | .ipv6 => "builder error: invalid IPv6 address"
  | .port => "builder error: invalid port number"
  | .unfit text => "builder error for url (" ++ text ++ "): Parsed Url is not a valid Uri"

inductive UrlHost where
  | name (text : String)
  | ip (address : Net.Ip)
  deriving DecidableEq, Inhabited

namespace UrlHost

def text : UrlHost → String
  | .name text => text
  | .ip (.v4 a) => a.text
  | .ip (.v6 a) => "[" ++ a.shortText ++ "]"

def hexPair? (a b : Char) : Option UInt8 := do
  return UInt8.ofNat ((← Net.digit? 16 a) * 16 + (← Net.digit? 16 b))

/-- The bytes of a text in which two digits after a percent sign stand for a byte. -/
def unescaped : List Char → List UInt8
  | [] => []
  | '%' :: a :: b :: rest =>
    match hexPair? a b with
    | some byte => byte :: unescaped rest
    | none => 37 :: unescaped (a :: b :: rest)
  | c :: rest => Text.Utf8.bytes (String.ofList [c]) ++ unescaped rest

/-- The characters that no name holds. -/
def isForbidden (c : Char) : Bool :=
  c.toNat < 32 || c.toNat = 127 || " #%/:<>?@[\\]^|".toList.contains c

/-- A label in small letters; one with others than the plain ones is put into those. -/
def label (cs : List Char) : List Char :=
  let cs := cs.map Char.toLower
  if cs.all (·.toNat < 128) then cs else "xn--".toList ++ Text.Punycode.encode cs

/-- A number that is all of a text. -/
def inBase? (base : Nat) (cs : List Char) : Option Nat :=
  match Net.digits base cs with
  | (ds, []) => some (Net.valueOf base ds)
  | _ => none

/-- A number, in base eight after a zero and in base 16 after a zero and an x. -/
def number? : List Char → Option Nat
  | [] => none
  | '0' :: 'x' :: ds | '0' :: 'X' :: ds => inBase? 16 ds
  | '0' :: ds => inBase? 8 ds
  | ds => inBase? 10 ds

/-- Up to four numbers, the last of which fills all bytes that are left. -/
def ipv4? (numbers : List Nat) : Option Net.Ipv4 :=
  let first := numbers.dropLast
  let last := numbers.getLast?.getD 0
  let room := 4 - first.length
  if 4 < numbers.length ∨ first.any (255 < ·) ∨ Nat.pow 256 room ≤ last then none
  else some ⟨first ++ (List.range room).reverse.map fun i => last / Nat.pow 256 i % 256⟩

/-- The labels of a name, without an empty one at the end. -/
def labels (name : List Char) : List (List Char) :=
  let parts := Text.splitOn '.' name
  if 1 < parts.length ∧ parts.getLast? = some [] then parts.dropLast else parts

/-- A name whose last label is a number has to be an address of four bytes. -/
def endsInNumber (name : List Char) : Bool :=
  (labels name).getLast?.any fun last =>
    !last.isEmpty && (last.all Char.isDigit || (number? last).isSome)

def ofName (cs : List Char) : Except UrlFault UrlHost := do
  let shown := (Text.Utf8.lossy (unescaped cs)).toList
  let name := List.intercalate ['.'] ((Text.splitOn '.' shown).map label)
  if name.isEmpty then throw .emptyHost
  if name.any isForbidden then throw .host
  if endsInNumber name then
    match ((labels name).mapM number?).bind ipv4? with
    | some address => return .ip (.v4 address)
    | none => throw .ipv4
  else return .name (String.ofList name)

/-- An address in brackets, or a name. -/
def ofChars : List Char → Except UrlFault UrlHost
  | '[' :: inner =>
    match inner.getLast?, Net.ipv6? inner.dropLast with
    | some ']', some (address, []) => .ok (.ip (.v6 address))
    | _, _ => .error .ipv6
  | cs => ofName cs

/-- The signs that a host may hold but no call. -/
def isUnfit (c : Char) : Bool := "\"\x60\x7b\x7d".toList.contains c

end UrlHost
end RouteSync.Http
