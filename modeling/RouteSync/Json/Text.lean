import RouteSync.Json.Fault
import RouteSync.Text.Quoted

/-! Texts in quotes: their writing and their reading. -/
namespace RouteSync.Json

def hexDigit? : Sign → Option Nat
  | none => none
  | some c =>
    if '0' ≤ c ∧ c ≤ '9' then some (c.toNat - 48)
    else if 'a' ≤ c ∧ c ≤ 'f' then some (c.toNat - 87)
    else if 'A' ≤ c ∧ c ≤ 'F' then some (c.toNat - 55)
    else none

def byteSize : Sign → Nat
  | some c => c.utf8Size
  | none => 1

/-- What is wrong where four hexadecimal digits do not follow: fewer than four bytes are left, or
others stand there. -/
def codeFault (input : List Sign) : Fault :=
  if (input.take 4).foldl (fun n s => n + byteSize s) 0 < 4 then .truncated else .malformed

def code? (a b c d : Sign) : Option Nat := do
  return (((← hexDigit? a) * 16 + (← hexDigit? b)) * 16 + (← hexDigit? c)) * 16 + (← hexDigit? d)

def isLead (n : Nat) : Bool := 0xD800 ≤ n && n < 0xDC00
def isTrail (n : Nat) : Bool := 0xDC00 ≤ n && n < 0xE000

def joinPair (lead trail : Nat) : Char :=
  Char.ofNat (0x10000 + (lead - 0xD800) * 1024 + (trail - 0xDC00))

/-- The character of an escape of one letter. -/
def escaped? : Char → Option Char
  | '"' => some '"'
  | '\\' => some '\\'
  | '/' => some '/'
  | 'b' => some '\x08'
  | 'f' => some '\x0c'
  | 'n' => some '\n'
  | 'r' => some '\r'
  | 't' => some '\t'
  | _ => none

def isControl (c : Char) : Bool := c.toNat < 32

/-- What is read of a text so far. -/
structure Draft where
  /-- The characters, last first. -/
  chars : List Char := []
  /-- The first half of a pair of codes, whose second half must follow. -/
  lead : Option Nat := none
  /-- Whether all bytes belong to characters, which is asked at the closing quote only. -/
  sound : Bool := true

def Draft.push (d : Draft) (c : Char) : Draft := { d with chars := c :: d.chars }

/-- Takes a numbered code: half a pair needs its other half. -/
def Draft.code? (d : Draft) (n : Nat) : Option Draft :=
  match d.lead with
  | some lead => if isTrail n then some { d.push (joinPair lead n) with lead := none } else none
  | none =>
    if isTrail n then none
    else if isLead n then some { d with lead := some n }
    else some (d.push (Char.ofNat n))

def Draft.close (d : Draft) (rest : List Sign) : Except Fault (String × List Sign) :=
  if d.lead.isNone && d.sound then .ok (String.ofList d.chars.reverse, rest)
  else .error .malformed

/-- A text after its opening quote. -/
def textBody (d : Draft) : List Sign → Except Fault (String × List Sign)
  | [] => .error .truncated
  | some '"' :: rest => d.close rest
  | some '\\' :: [] => .error .truncated
  | some '\\' :: some 'u' :: a :: b :: c :: e :: rest =>
    match code? a b c e with
    | none => .error (codeFault [a, b, c, e])
    | some n =>
      match d.code? n with
      | none => .error .malformed
      | some d => textBody d rest
  | some '\\' :: some 'u' :: rest => .error (codeFault rest)
  | some '\\' :: s :: rest =>
    if d.lead.isSome then .error .malformed
    else match s.bind escaped? with
      | none => .error .malformed
      | some c => textBody (d.push c) rest
  | some c :: rest =>
    if isControl c || d.lead.isSome then .error .malformed else textBody (d.push c) rest
  | none :: rest =>
    if d.lead.isSome then .error .malformed else textBody { d with sound := false } rest

/-- A text whose opening quote comes first. -/
def text : Reader String := fun input => textBody {} input.tail

/-- Skips a text after its opening quote; only escapes and control characters are looked at. -/
def skipTextBody : List Sign → Except Fault (List Sign)
  | [] => .error .truncated
  | some '"' :: rest => .ok rest
  | some '\\' :: [] => .error .truncated
  | some '\\' :: some 'u' :: a :: b :: c :: e :: rest =>
    if (code? a b c e).isNone then .error (codeFault [a, b, c, e]) else skipTextBody rest
  | some '\\' :: some 'u' :: rest => .error (codeFault rest)
  | some '\\' :: s :: rest =>
    if (s.bind escaped?).isNone then .error .malformed else skipTextBody rest
  | some c :: rest => if isControl c then .error .malformed else skipTextBody rest
  | none :: rest => skipTextBody rest

def skipText : Reader Unit := fun input => (skipTextBody input.tail).map fun rest => ((), rest)

def hexPair (n : Nat) : List Char := [Nat.digitChar (n / 16), Nat.digitChar (n % 16)]

/-- Quotes, backslashes and control characters are escaped, by a letter where there is one. -/
def escape (c : Char) : List Char :=
  match c with
  | '"' => ['\\', '"']
  | '\\' => ['\\', '\\']
  | '\x08' => ['\\', 'b']
  | '\x0c' => ['\\', 'f']
  | '\n' => ['\\', 'n']
  | '\r' => ['\\', 'r']
  | '\t' => ['\\', 't']
  | c => if isControl c then ['\\', 'u', '0', '0'] ++ hexPair c.toNat else [c]

def quote (s : String) : String := String.ofList ('"' :: s.toList.flatMap escape ++ ['"'])

end RouteSync.Json
