/-! Internet addresses: their text and its reading. -/
namespace RouteSync.Net

structure Ipv4 where
  octets : List Nat
  deriving DecidableEq, Inhabited

/-- Eight groups of sixteen bits. -/
structure Ipv6 where
  groups : List Nat
  deriving DecidableEq, Inhabited

inductive Ip where
  | v4 (address : Ipv4)
  | v6 (address : Ipv6)
  deriving DecidableEq, Inhabited

def digit? (base : Nat) (c : Char) : Option Nat :=
  let value? :=
    if '0' ≤ c && c ≤ '9' then some (c.toNat - 48)
    else if 'a' ≤ c && c ≤ 'z' then some (c.toNat - 87)
    else if 'A' ≤ c && c ≤ 'Z' then some (c.toNat - 55)
    else none
  value?.filter (· < base)

/-- The digits a text starts with, and the rest. -/
def digits (base : Nat) (cs : List Char) : List Nat × List Char :=
  let run := cs.takeWhile fun c => (digit? base c).isSome
  (run.filterMap (digit? base), cs.drop run.length)

def valueOf (base : Nat) (ds : List Nat) : Nat := ds.foldl (fun n d => n * base + d) 0

/-- A decimal number up to 255 in at most three digits without a leading zero. -/
def octet? (cs : List Char) : Option (Nat × List Char) :=
  match digits 10 cs with
  | ([], _) => none
  | ([0], rest) => some (0, rest)
  | (0 :: _, _) => none
  | (ds, rest) => if ds.length ≤ 3 ∧ valueOf 10 ds ≤ 255 then some (valueOf 10 ds, rest) else none

/-- One to four hexadecimal digits. -/
def group? (cs : List Char) : Option (Nat × List Char) :=
  match digits 16 cs with
  | ([], _) => none
  | (ds, rest) => if ds.length ≤ 4 then some (valueOf 16 ds, rest) else none

def char? (c : Char) : List Char → Option (List Char)
  | d :: rest => if d = c then some rest else none
  | [] => none

/-- Four octets joined by dots, and the rest. -/
def ipv4? (cs : List Char) : Option (Ipv4 × List Char) := do
  let (a, cs) ← octet? cs
  let (b, cs) ← octet? (← char? '.' cs)
  let (c, cs) ← octet? (← char? '.' cs)
  let (d, cs) ← octet? (← char? '.' cs)
  some (⟨[a, b, c, d]⟩, cs)

def Ipv4.asGroups (a : Ipv4) : List Nat :=
  match a.octets with
  | [a, b, c, d] => [a * 256 + b, c * 256 + d]
  | _ => []

/-- Some groups of an address, whether dotted octets stood for the last two, and the rest. -/
structure Groups where
  groups : List Nat
  dotted : Bool
  rest : List Char

/-- Up to `room` groups joined by colons. The last two may be written as dotted octets. -/
def readGroups (first : Bool) (cs : List Char) : Nat → Groups
  | 0 => ⟨[], false, cs⟩
  | room + 1 =>
    match (if first then some cs else char? ':' cs) with
    | none => ⟨[], false, cs⟩
    | some after =>
      match (if room = 0 then none else ipv4? after) with
      | some (a, rest) => ⟨a.asGroups, true, rest⟩
      | none =>
        match group? after with
        | none => ⟨[], false, cs⟩
        | some (g, rest) =>
          let more := readGroups false rest room
          ⟨g :: more.groups, more.dotted, more.rest⟩

/-- Eight groups, or fewer around a double colon that stands for at least one group of zeros. -/
def ipv6? (cs : List Char) : Option (Ipv6 × List Char) := do
  let head := readGroups true cs 8
  if head.groups.length = 8 then
    return (⟨head.groups⟩, head.rest)
  if head.dotted then
    none
  let cs ← char? ':' (← char? ':' head.rest)
  let tail := readGroups true cs (7 - head.groups.length)
  let zeros := List.replicate (8 - head.groups.length - tail.groups.length) 0
  return (⟨head.groups ++ zeros ++ tail.groups⟩, tail.rest)

def ip? (cs : List Char) : Option (Ip × List Char) :=
  match ipv4? cs with
  | some (a, rest) => some (.v4 a, rest)
  | none => (ipv6? cs).map fun (a, rest) => (.v6 a, rest)

def Ip.ofString? (s : String) : Option Ip :=
  match ip? s.toList with
  | some (a, []) => some a
  | _ => none

def Ipv4.text (a : Ipv4) : String := ".".intercalate (a.octets.map toString)

def hexText (n : Nat) : String := String.ofList (Nat.toDigits 16 n)

def groupsText (groups : List Nat) : String := ":".intercalate (groups.map hexText)

/-- The length of the run of zeros that a list starts with. -/
def zeroRun (groups : List Nat) : Nat := (groups.takeWhile (· = 0)).length

/-- Where the first of the longest runs of zeros starts, and its length. -/
def longestZeroRun (groups : List Nat) : Nat × Nat :=
  (List.range groups.length).foldl (fun (at_, best) i =>
    let run := zeroRun (groups.drop i)
    if best < run then (i, run) else (at_, best)) (0, 0)

/-- The longest run of two or more zero groups is left out, the first of several. -/
def Ipv6.shortText (a : Ipv6) : String :=
  let (start, run) := longestZeroRun a.groups
  if 1 < run then
    groupsText (a.groups.take start) ++ "::" ++ groupsText (a.groups.drop (start + run))
  else groupsText a.groups

/-- An address of four bytes among those of eight groups shows its bytes. -/
def Ipv6.text (a : Ipv6) : String :=
  match a.groups with
  | [0, 0, 0, 0, 0, 0xFFFF, g, h] =>
    "::ffff:" ++ Ipv4.text ⟨[g / 256, g % 256, h / 256, h % 256]⟩
  | _ => a.shortText

end RouteSync.Net
