import RouteSync.Net.Ip
import RouteSync.Rehearsal.Shell.State

/-! Sums: whole numbers of 64 bits, and parameters that hold them. -/
namespace RouteSync.Rehearsal.Shell

inductive Lexeme where
  | number (n : Int)
  | name (text : String)
  | sign (text : String)
  | other
  deriving DecidableEq, Inhabited

def greatest : Nat := 9223372036854775807

def wrap (n : Int) : Int := Int.bmod n 18446744073709551616

/-- A number in base eight after a zero, in base 16 after a zero and an x, and what follows. -/
def numeral? (cs : List Char) : Option (Nat × List Char) :=
  let read (base : Nat) (cs : List Char) : Nat × List Char :=
    let (ds, rest) := Net.digits base cs
    (min greatest (Net.valueOf base ds), rest)
  match cs with
  | '0' :: x :: d :: rest =>
    if (x = 'x' || x = 'X') && (Net.digit? 16 d).isSome then some (read 16 (d :: rest))
    else some (read 8 (x :: d :: rest))
  | '0' :: rest => some (read 8 rest)
  | c :: rest => if c.isDigit then some (read 10 (c :: rest)) else none
  | [] => none

def sumSigns : List String := ["<<=", ">>=", "<<", ">>", "<=", ">=", "==", "!=", "&&", "||", "+=",
  "-=", "*=", "/=", "%=", "&=", "|=", "+", "-", "*", "/", "%", "<", ">", "!", "~", "&", "|",
  "(", ")", "?", ":", "=", "^=", "^"]

def isBlankByte (c : Char) : Bool := c = ' ' || c = '\t' || c = '\n'

def sumLexemes : Nat → List Char → List Lexeme
  | 0, _ => []
  | n + 1, cs =>
    match cs.dropWhile isBlankByte with
    | [] => []
    | c :: rest =>
      if isNameStart c then
        let name := (c :: rest).takeWhile isNameChar
        .name (String.ofList name) :: sumLexemes n ((c :: rest).drop name.length)
      else
        match numeral? (c :: rest) with
        | some (value, rest) => .number value :: sumLexemes n rest
        | none =>
          match sumSigns.find? fun sign => sign.toList.isPrefixOf (c :: rest) with
          | some sign => .sign sign :: sumLexemes n ((c :: rest).drop sign.length)
          | none => [.other]

/-- A whole number that is all of a text, blanks around it aside. -/
def wholeNumber? (text : String) : Option Int :=
  let cs := text.toList.dropWhile isBlankByte
  let (negative, cs) := match cs with
    | '-' :: rest => (true, rest)
    | '+' :: rest => (false, rest)
    | rest => (false, rest)
  match numeral? cs with
  | some (n, rest) =>
    if rest.all isBlankByte then some (if negative then -n else n) else none
  | none => none

/-- How tightly a sign binds its sides, and what it makes of them; none where it cannot. -/
def binary? : String → Option (Nat × (Int → Int → Option Int))
  | "*" => some (10, fun a b => some (a * b))
  | "/" => some (10, fun a b => if b = 0 then none else some (Int.tdiv a b))
  | "%" => some (10, fun a b => if b = 0 then none else some (Int.tmod a b))
  | "+" => some (9, fun a b => some (a + b))
  | "-" => some (9, fun a b => some (a - b))
  | "<<" => some (8, fun a b => some (a * (Nat.pow 2 (b % 64).toNat : Nat)))
  | ">>" => some (8, fun a b => some (Int.fdiv a (Nat.pow 2 (b % 64).toNat : Nat)))
  | "<" => some (7, fun a b => some (truth (a < b)))
  | "<=" => some (7, fun a b => some (truth (a ≤ b)))
  | ">" => some (7, fun a b => some (truth (b < a)))
  | ">=" => some (7, fun a b => some (truth (b ≤ a)))
  | "==" => some (6, fun a b => some (truth (a = b)))
  | "!=" => some (6, fun a b => some (truth (a ≠ b)))
  | "&" => some (5, fun a b => some (bits (· &&& ·) a b))
  | "|" => some (3, fun a b => some (bits (· ||| ·) a b))
  | sign => if sign = "^" then some (4, fun a b => some (bits (· ^^^ ·) a b)) else none
where
  truth (b : Bool) : Int := if b then 1 else 0
  bits (f : UInt64 → UInt64 → UInt64) (a b : Int) : Int :=
    let word (n : Int) : UInt64 := UInt64.ofNat (n % 18446744073709551616).toNat
    (f (word a) (word b)).toNat

/-- A sum that is being read: what is left of it, and its whole text for complaints. -/
structure SumState where
  rest : List Lexeme
  text : String

abbrev Summing := StateT SumState Script

namespace Summing

def fail {α : Type} (what : String) : Summing α := do
  let text := (← get).text
  Script.fatal ("arithmetic expression: " ++ what ++ ": \"" ++ text ++ "\"")

def peek : Summing (Option Lexeme) := return (← get).rest.head?

def skip : Summing Unit := modify fun s => { s with rest := s.rest.tail }

/-- The number that a parameter holds; one without a text holds zero. -/
def valueOf (name : String) : Summing Int := do
  match ← Script.value? name with
  | none => return 0
  | some text =>
    if text.isEmpty then return 0
    else match wholeNumber? text with
      | some n => return n
      | none => Script.fatal ("Illegal number: " ++ text)

/-- The sign inside one that also sets a parameter. -/
def settingSign? (sign : String) : Option String :=
  if sign = "=" then some ""
  else if ["==", "!=", "<=", ">="].contains sign then none
  else match sign.toList.reverse with
    | '=' :: rest => some (String.ofList rest.reverse)
    | _ => none

def apply (sign : String) (f : Int → Int → Option Int) (live : Bool) (a b : Int) : Summing Int :=
  match f a b with
  | some n => return wrap n
  | none => if live && (sign = "/" || sign = "%") then fail "division by zero" else return 0

mutual

/-- A sum in which a parameter may be set. Only a live one sets any. -/
def setting (steps : Nat) (live : Bool) : Summing Int :=
  match steps with
  | 0 => fail "expecting primary"
  | n + 1 => do
    match (← get).rest with
    | .name name :: .sign sign :: rest =>
      match settingSign? sign with
      | some inner =>
        modify fun s => { s with rest }
        let value ← setting n live
        let value ← match binary? inner with
          | some (_, f) => do apply inner f live (← valueOf name) value
          | none => pure value
        if live then Script.assign name (toString value)
        return value
      | none => choice n live
    | _ => choice n live

/-- One of two, by a condition. -/
def choice (steps : Nat) (live : Bool) : Summing Int :=
  match steps with
  | 0 => fail "expecting primary"
  | n + 1 => do
    let condition ← either n live
    match ← peek with
    | some (.sign "?") =>
      skip
      let yes ← setting n (live && condition ≠ 0)
      match ← peek with
      | some (.sign ":") =>
        skip
        let no ← choice n (live && condition = 0)
        return if condition ≠ 0 then yes else no
      | _ => fail "expecting ':'"
    | _ => return condition

def either (steps : Nat) (live : Bool) : Summing Int :=
  match steps with
  | 0 => fail "expecting primary"
  | n + 1 => do
    let first ← both n live
    match ← peek with
    | some (.sign "||") =>
      skip
      let second ← either n (live && first = 0)
      return if first ≠ 0 || second ≠ 0 then 1 else 0
    | _ => return first

def both (steps : Nat) (live : Bool) : Summing Int :=
  match steps with
  | 0 => fail "expecting primary"
  | n + 1 => do
    let first ← primary n live
    let first ← operations n live 0 first
    match ← peek with
    | some (.sign "&&") =>
      skip
      let second ← both n (live && first ≠ 0)
      return if first ≠ 0 && second ≠ 0 then 1 else 0
    | _ => return first

/-- The operations that bind at least so tightly, with what stands left of them. -/
def operations (steps : Nat) (live : Bool) (least : Nat) (left : Int) : Summing Int :=
  match steps with
  | 0 => return left
  | n + 1 => do
    match ← peek with
    | some (.sign sign) =>
      match binary? sign with
      | some (strength, f) =>
        if strength < least then return left
        else
          skip
          let right ← primary n live
          let right ← operations n live (strength + 1) right
          operations n live least (← apply sign f live left right)
      | none => return left
    | _ => return left

def primary (steps : Nat) (live : Bool) : Summing Int :=
  match steps with
  | 0 => fail "expecting primary"
  | n + 1 => do
    match ← peek with
    | some (.number value) => skip; return value
    | some (.name name) => skip; valueOf name
    | some (.sign "(") =>
      skip
      let value ← setting n live
      match ← peek with
      | some (.sign ")") => skip; return value
      | _ => fail "expecting ')'"
    | some (.sign "-") => skip; return wrap (-(← primary n live))
    | some (.sign "+") => skip; primary n live
    | some (.sign "~") => skip; return -(← primary n live) - 1
    | some (.sign "!") => skip; return if (← primary n live) = 0 then 1 else 0
    | _ => fail "expecting primary"

end

end Summing

/-- The value of a sum. -/
def sum (text : String) : Script Int := do
  let cs := text.toList
  let steps := 8 * cs.length + 8
  let whole : Summing Int := do
    let value ← Summing.setting steps true
    if (← Summing.peek).isSome then Summing.fail "expecting EOF" else return value
  return (← whole.run ⟨sumLexemes (cs.length + 1) cs, text⟩).1

end RouteSync.Rehearsal.Shell
