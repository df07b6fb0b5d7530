import RouteSync.Decimal.Text
import RouteSync.Json.Fault

/-! Numbers: whole ones of 64 bits, and all others in binary floating point. -/
namespace RouteSync.Json

open Decimal

inductive Number where
  | integer (value : Int)
  | decimal (value : Binary64)
  deriving DecidableEq, Inhabited

/-- Exponents from order 16 on and below order -5. -/
def decimalStyle : Style := ⟨.even, some (-5), some 16⟩

def Number.found : Number → Decode.Found
  | .integer n => .integer n
  | .decimal x => .decimal (x.text decimalStyle)

def maxNatural : Nat := 18446744073709551615
def maxExponent : Nat := 2147483647

def digit? : Sign → Option Nat
  | some c => if '0' ≤ c ∧ c ≤ '9' then some (c.toNat - 48) else none
  | none => none

/-- Digits taken into a number that stays within a limit. -/
structure Run where
  value : Nat
  count : Nat
  /-- The next digit would go beyond the limit. -/
  full : Bool
  rest : List Sign

def digits (limit value count : Nat) : List Sign → Run
  | [] => ⟨value, count, false, []⟩
  | s :: rest =>
    match digit? s with
    | none => ⟨value, count, false, s :: rest⟩
    | some d =>
      if value * 10 + d ≤ limit then digits limit (value * 10 + d) (count + 1) rest
      else ⟨value, count, true, s :: rest⟩

def digitRun (input : List Sign) : Nat := (input.takeWhile fun s => (digit? s).isSome).length

def tenTo (n : Nat) : Magnitude := Magnitude.ofNat (pow10 n)

/-- Divides by a power of ten, in steps of at most `10 ^ 308`. -/
def scaleDown (m : Magnitude) (n : Nat) : Magnitude :=
  if m.mantissa = 0 then m
  else if n ≤ 308 then (m.div? (tenTo n)).getD .zero
  else scaleDown ((m.div? (tenTo 308)).getD .zero) (n - 308)
termination_by n

/-- The significand is rounded first, and its product with the power of ten once more. -/
def magnitude? (significand : Nat) (exponent : Int) : Option Magnitude :=
  let m := Magnitude.ofNat significand
  if exponent < 0 then some (scaleDown m (-exponent).toNat)
  else if exponent ≤ 308 then m.mul? (tenTo exponent.toNat)
  else if significand = 0 then some m
  else none

def ofParts (negative : Bool) (significand : Nat) (exponent : Int) (rest : List Sign) :
    Except Fault (Number × List Sign) :=
  match magnitude? significand exponent with
  | some m => .ok (.decimal (.finite negative m), rest)
  | none => .error .malformed

/-- What follows the letter of an exponent. -/
def exponentPart (negative : Bool) (significand : Nat) (exponent : Int) (input : List Sign) :
    Except Fault (Number × List Sign) :=
  let (below, input) := match input with
    | some '+' :: rest => (false, rest)
    | some '-' :: rest => (true, rest)
    | rest => (false, rest)
  match input with
  | [] => .error .truncated
  | s :: _ =>
    match digit? s with
    | none => .error .malformed
    | some _ =>
      let run := digits maxExponent 0 0 input
      if run.full then
        if significand ≠ 0 ∧ !below then .error .malformed
        else ofParts negative 0 0 (run.rest.drop (digitRun run.rest))
      else
        let shift : Int := if below then -run.value else run.value
        ofParts negative significand (exponent + shift) run.rest

/-- The end of a number with a fraction. -/
def decimalEnd (negative : Bool) (significand : Nat) (exponent : Int) :
    List Sign → Except Fault (Number × List Sign)
  | some 'e' :: rest | some 'E' :: rest => exponentPart negative significand exponent rest
  | rest => ofParts negative significand exponent rest

/-- What follows the point. -/
def fractionPart (negative : Bool) (significand : Nat) (exponent : Int) (input : List Sign) :
    Except Fault (Number × List Sign) :=
  let run := digits maxNatural significand 0 input
  if run.full then
    decimalEnd negative run.value (exponent - run.count) (run.rest.drop (digitRun run.rest))
  else if run.count = 0 then
    if run.rest.isEmpty then .error .truncated else .error .malformed
  else decimalEnd negative run.value (exponent - run.count) run.rest

/-- A whole number: zero has no negative, and what does not fit in 64 bits is a decimal. -/
def whole (negative : Bool) (value : Nat) : Number :=
  if !negative then .integer value
  else if value = 0 ∨ 9223372036854775808 < value then
    .decimal (.finite true (Magnitude.ofNat value))
  else .integer (-value)

/-- The end of a number after its first run of digits. -/
def wholeEnd (negative : Bool) (value : Nat) : List Sign → Except Fault (Number × List Sign)
  | some '.' :: rest => fractionPart negative value 0 rest
  | some 'e' :: rest | some 'E' :: rest => exponentPart negative value 0 rest
  | rest => .ok (whole negative value, rest)

/-- The end of a number that has `dropped` more digits than fit in 64 bits. -/
def longEnd (negative : Bool) (value dropped : Nat) :
    List Sign → Except Fault (Number × List Sign)
  | some '.' :: rest => fractionPart negative value dropped rest
  | rest => decimalEnd negative value dropped rest

/-- A number after its sign. -/
def unsigned (negative : Bool) (input : List Sign) : Except Fault (Number × List Sign) :=
  match input with
  | [] => .error .truncated
  | s :: rest =>
    match digit? s with
    | none => .error .malformed
    | some 0 => if digitRun rest ≠ 0 then .error .malformed else wholeEnd negative 0 rest
    | some _ =>
      let run := digits maxNatural 0 0 input
      if run.full then
        let dropped := digitRun run.rest
        longEnd negative run.value dropped (run.rest.drop dropped)
      else wholeEnd negative run.value run.rest

/-- A number, the first sign of which is a hyphen or a digit. -/
def number : Reader Number
  | some '-' :: rest => unsigned true rest
  | input => unsigned false input

/-- Skips a fraction or an exponent: at least one digit. -/
def skipDigits (input : List Sign) : Except Fault (List Sign) :=
  if digitRun input = 0 then .error .malformed else .ok (input.drop (digitRun input))

def skipExponent : List Sign → Except Fault (List Sign)
  | some 'e' :: rest | some 'E' :: rest =>
    match rest with
    | some '+' :: rest | some '-' :: rest => skipDigits rest
    | rest => skipDigits rest
  | rest => .ok rest

/-- Skips a number of any size; one that ends too early is malformed here. -/
def skipNumber : Reader Unit := fun input => do
  let input := match input with
    | some '-' :: rest => rest
    | rest => rest
  let rest ← match input with
    | some '0' :: rest => if digitRun rest ≠ 0 then .error .malformed else .ok rest
    | rest => skipDigits rest
  let rest ← match rest with
    | some '.' :: rest => skipDigits rest
    | rest => .ok rest
  return ((), ← skipExponent rest)

end RouteSync.Json
