import RouteSync.Decimal.Shortest
import RouteSync.Text.Split
import RouteSync.Toml.Lexeme

/-! Numbers, and moments of time. -/
namespace RouteSync.Toml

open Decimal

def isDigitOf (base : Nat) (c : Char) : Bool :=
  (Json.hexDigit? (some c)).any (· < base)

/-- Digits with single underscores between them, and the rest; none where they start or end with an
underscore or two of them meet. -/
def digitRun? (base : Nat) (input : List Char) : Option (List Char × List Char) :=
  let run := input.takeWhile fun c => isDigitOf base c || c = '_'
  let parts := Text.splitOn '_' run
  if parts.all (· ≠ []) then some (parts.flatten, input.drop run.length) else none

def digitsValue (base : Nat) (ds : List Char) : Nat :=
  ds.foldl (fun n c => n * base + (Json.hexDigit? (some c)).getD 0) 0

def leastInteger : Int := -9223372036854775808
def greatestInteger : Int := 9223372036854775807

def tooLarge : Cause := { note := some "number too large to fit in target type" }

def integer (n : Int) : Reader Value := fun rest =>
  if leastInteger ≤ n ∧ n ≤ greatestInteger then .ok (.integer n, rest) else fail tooLarge rest

/-- A whole number in another base than ten; it has no sign. -/
def based (base : Nat) (name : String) : Reader Value := do
  let ds ← orFail (.of (name ++ " integer") ["digit"]) (digitRun? base (← get))
  integer (digitsValue base ds)

/-- Orders beyond these are rounded to zero or are too large, whatever the digits. -/
def greatestOrder : Int := 400

/-- The number nearest to `digits * 10 ^ exponent`. -/
def nearest (negative : Bool) (digits : Nat) (exponent : Int) : Binary64 :=
  let order := exponent + digitCount digits
  if digits = 0 ∨ order < -greatestOrder then .finite negative .zero
  else if greatestOrder < order then .infinite negative
  else
    let m? := if 0 ≤ exponent then Magnitude.ofQuotient? (digits * pow10 exponent.toNat) 1
      else Magnitude.ofQuotient? digits (pow10 (-exponent).toNat)
    match m? with
    | some m => .finite negative m
    | none => .infinite negative

def noDecimal : Cause := .of "floating-point number" ["digit"]

/-- The sign and the digits of an exponent. -/
def exponent : Reader Int := fun input =>
  let (negative, input) := match input with
    | '-' :: rest => (true, rest)
    | '+' :: rest => (false, rest)
    | rest => (false, rest)
  match digitRun? 10 input with
  | some (ds, rest) =>
    let n : Int := digitsValue 10 ds
    .ok (if negative then -n else n, rest)
  | none => fail noDecimal input

/-- A number too large is refused, a negative one is taken as infinite. -/
def decimal (negative : Bool) (digits : List Char) (scale : Int) : Reader Value := fun rest =>
  match nearest negative (digitsValue 10 digits) scale with
  | .infinite false => fail (.of "floating-point number") rest
  | x => .ok (.decimal x, rest)

/-- The end of a number after its fraction. -/
def afterFraction (negative : Bool) (digits : List Char) (places : Nat) : Reader Value
  | 'e' :: rest | 'E' :: rest => do
    let (e, rest) ← exponent rest
    decimal negative digits (e - places) rest
  | rest => decimal negative digits (-places) rest

/-- A decimal number after its sign. Its whole part starts with zero only if it is zero. -/
def unsigned (negative : Bool) : Reader Value := fun input => do
  let (whole, rest) ← match input with
    | '0' :: rest => .ok (['0'], rest)
    | input => orFail (.of "integer" ["digit"]) (digitRun? 10 input) input
  match rest with
  | '.' :: rest =>
    let (places, rest) ← orFail noDecimal (digitRun? 10 rest) rest
    afterFraction negative (whole ++ places) places.length rest
  | 'e' :: _ | 'E' :: _ => afterFraction negative whole 0 rest
  | rest =>
    let n : Int := digitsValue 10 whole
    integer (if negative then -n else n) rest

def keyword? (word : String) (input : List Char) : Option (List Char) :=
  if word.toList.isPrefixOf input then some (input.drop word.length) else none

/-- A number after its sign, which may be a word. -/
def afterSign (negative : Bool) : Reader Value := fun input =>
  match keyword? "inf" input, keyword? "nan" input with
  | some rest, _ => .ok (.decimal (.infinite negative), rest)
  | _, some rest => .ok (.decimal .notANumber, rest)
  | _, _ => unsigned negative input

def number : Reader Value := fun input =>
  match input with
  | '0' :: 'x' :: rest => based 16 "hexadecimal" rest
  | '0' :: 'o' :: rest => based 8 "octal" rest
  | '0' :: 'b' :: rest => based 2 "binary" rest
  | '+' :: rest => afterSign false rest
  | '-' :: rest => afterSign true rest
  | input => afterSign false input

/-- Exactly `width` digits of a number within a range. -/
def field? (width low high : Nat) (input : List Char) : Option (Nat × List Char) :=
  let ds := input.take width
  if ds.length = width ∧ ds.all Char.isDigit then
    let n := digitsValue 10 ds
    if low ≤ n ∧ n ≤ high then some (n, input.drop width) else none
  else none

def after? (c : Char) : List Char → Option (List Char)
  | d :: rest => if d = c then some rest else none
  | [] => none

def leapYear (year : Nat) : Bool := year % 4 = 0 && (year % 100 ≠ 0 || year % 400 = 0)

def daysIn (year month : Nat) : Nat :=
  if month = 2 then (if leapYear year then 29 else 28)
  else if month ∈ [4, 6, 9, 11] then 30
  else 31

/-- Year, month and day, joined by hyphens. -/
def date? (input : List Char) : Option (List Char) := do
  let (year, rest) ← field? 4 0 9999 input
  let (month, rest) ← field? 2 1 12 (← after? '-' rest)
  let (day, rest) ← field? 2 1 31 (← after? '-' rest)
  if day ≤ daysIn year month then some rest else none

/-- Hour, minute and second, joined by colons, and parts of a second after a point. -/
def time? (input : List Char) : Option (List Char) := do
  let (_, rest) ← field? 2 0 23 input
  let (_, rest) ← field? 2 0 59 (← after? ':' rest)
  let (_, rest) ← field? 2 0 60 (← after? ':' rest)
  match rest with
  | '.' :: parts =>
    let run := parts.takeWhile Char.isDigit
    if run.isEmpty then none else some (parts.drop run.length)
  | rest => some rest

/-- The distance from universal time, if there is one. -/
def offset? (input : List Char) : Option (List Char) :=
  match input with
  | 'Z' :: rest | 'z' :: rest => some rest
  | '+' :: rest | '-' :: rest => do
    let (_, rest) ← field? 2 0 23 rest
    let (_, rest) ← field? 2 0 59 (← after? ':' rest)
    some rest
  | rest => some rest

/-- A date may be followed by a time, and that by an offset. -/
def afterDate (input : List Char) : Option (List Char) :=
  match input with
  | 'T' :: rest | 't' :: rest => do offset? (← time? rest)
  | ' ' :: rest =>
    match time? rest with
    | some rest => offset? rest
    | none => some input
  | rest => some rest

def startsDate (input : List Char) : Bool :=
  ((field? 4 0 9999 input).bind fun (_, rest) => after? '-' rest).isSome

def startsTime (input : List Char) : Bool :=
  ((field? 2 0 23 input).bind fun (_, rest) => after? ':' rest).isSome

/-- A number or a moment. -/
def numberOrMoment : Reader Value := fun input =>
  let moment (rest? : Option (List Char)) : Except Fault (Value × List Char) :=
    orFail (.of "date-time") (rest?.map fun rest => (.moment, rest)) input
  if startsDate input then moment ((date? input).bind afterDate)
  else if startsTime input then moment (time? input)
  else number input

end RouteSync.Toml
