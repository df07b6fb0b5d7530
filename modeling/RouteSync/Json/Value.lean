import RouteSync.Json.Skip

/-! Readers of plain values, lists and records. -/
namespace RouteSync.Json

open Decode

/-- What stands here. A scalar is read through, so that its own faults come first. -/
def found : Reader Found := do
  let s ← peek
  match s with
  | some 'n' => word "null".toList; return .null
  | some 't' => word "true".toList; return .bool true
  | some 'f' => word "false".toList; return .bool false
  | some '"' => return .text (← text)
  | some '[' => return .sequence
  | some '\x7b' => return .map
  | some '-' => return (← number).found
  | s => if (digit? s).isSome then return (← number).found else throw .malformed

def unexpected {α : Type} (expected : String) : Reader α := do
  Reader.fail (.kind (← found) expected)

def startsNumber (s : Sign) : Bool := s = some '-' || (digit? s).isSome

/-- A whole number from `low` to `high`; `expected` names the range in errors. -/
def integer (low high : Int) (expected : String) : Reader Int := do
  if startsNumber (← peek) then
    match ← number with
    | .integer n =>
      if low ≤ n ∧ n ≤ high then return n else Reader.fail (.value (.integer n) expected)
    | .decimal x => Reader.fail (.kind (Number.decimal x).found expected)
  else unexpected expected

def natural (high : Nat) (expected : String) : Reader Nat := Int.toNat <$> integer 0 high expected

def uint32 : Reader UInt32 := UInt32.ofNat <$> natural 4294967295 "u32"

def uint64 : Reader UInt64 := UInt64.ofNat <$> natural 18446744073709551615 "u64"

def int32 : Reader Int32 := Int32.ofInt <$> integer (-2147483648) 2147483647 "i32"

def string : Reader String := do
  if (← peek) = some '"' then text else unexpected "a string"

/-- The value of `r`, or null. -/
def optional {α : Type} (r : Reader α) : Reader (Option α) := do
  if (← peek) = some 'n' then
    word "null".toList
    return none
  else some <$> r

/-- Whether another item of a list follows; the comma before it is taken off. -/
def anotherItem (first : Bool) : Reader Bool := do
  let s ← peek
  if s = some ']' then return false
  else if first then return true
  else if s = some ',' then
    advance
    if (← peek) = some ']' then throw .malformed else return true
  else throw .malformed

/-- The items of a list after its opening bracket; `index` of them, last first, are in `done`. -/
def items {α : Type} (item : Reader α) (index : Nat) (done : List α) :
    Nat → List Sign → Except Fault (List α × List Sign)
  | 0, _ => .error .truncated
  | steps + 1, input =>
    match anotherItem (index = 0) input with
    | .error e => .error e
    | .ok (false, rest) => .ok (done.reverse, rest.tail)
    | .ok (true, rest) =>
      match item.within (.item index) rest with
      | .error e => .error e
      | .ok (a, rest) => items item (index + 1) (a :: done) steps rest

/-- A list in brackets. Every item takes a sign off, so `steps` may be the document's length. -/
def list {α : Type} (steps : Nat) (item : Reader α) : Reader (List α) := do
  if (← peek) = some '[' then
    advance
    items item 0 [] (steps + 1)
  else unexpected "a sequence"

/-- A field of a record under construction. -/
structure Field (δ : Type) where
  name : String
  required : Bool
  present : δ → Bool
  read : Reader (δ → δ)

/-- A field that is there once it has a value. -/
def Field.of {α δ : Type} (name : String) (required : Bool) (get : δ → Option α)
    (put : α → δ → δ) (r : Reader α) : Field δ :=
  ⟨name, required, fun d => (get d).isSome, put <$> r⟩

/-- A record is written as an object, or as a list of its fields in order. -/
structure Shape (δ : Type) where
  name : String
  fields : List (Field δ)
  start : δ

namespace Shape

variable {δ : Type}

/-- The fields of a record written as a list; the last argument counts those before. -/
def listed (shape : Shape δ) : List (Field δ) → Nat → δ → Reader δ
  | [], _, d => pure d
  | field :: fields, index, d => do
    if ← anotherItem (index = 0) then
      let put ← Reader.within (.item index) field.read
      listed shape fields (index + 1) (put d)
    else if field.required then
      Reader.fail (.length index (listedName shape.name shape.fields.length))
    else listed shape fields (index + 1) d

/-- The first sign of a field's name, or the closing brace; the comma before it is taken off. -/
def nextName (first : Bool) : Reader Sign := do
  let s ← peek
  if s = some '\x7d' then return s
  else if first then
    if s = some '"' then return s else throw .malformed
  else if s = some ',' then
    advance
    if (← peek) = some '"' then return some '"' else throw .malformed
  else throw .malformed

/-- One field after its name's opening quote is found; unknown ones are skipped. -/
def entry (shape : Shape δ) (steps : Nat) (d : δ) : Reader δ := do
  let name ← text
  match shape.fields.find? (·.name = name) with
  | some field =>
    if field.present d then Reader.fail (.duplicate name)
    expect ':'
    let put ← Reader.within (.field name) field.read
    return put d
  | none =>
    expect ':'
    skipValue steps
    return d

def entries (shape : Shape δ) (first : Bool) (d : δ) :
    Nat → List Sign → Except Fault (δ × List Sign)
  | 0, _ => .error .truncated
  | steps + 1, input =>
    match nextName first input with
    | .error e => .error e
    | .ok (some '"', rest) =>
      match shape.entry steps d rest with
      | .error e => .error e
      | .ok (d, rest) => entries shape false d steps rest
    | .ok (_, rest) =>
      match shape.fields.find? fun field => field.required && !field.present d with
      | some field => .error (.mismatch [] (.missing field.name))
      | none => .ok (d, rest.tail)

/-- Every field takes a sign off, so `steps` may be the document's length. -/
def read (shape : Shape δ) (steps : Nat) : Reader δ := do
  match ← peek with
  | some '[' =>
    advance
    let d ← shape.listed shape.fields 0 shape.start
    expect ']'
    return d
  | some '\x7b' =>
    advance
    shape.entries true shape.start (steps + 1)
  | _ => unexpected shape.name

end Shape
end RouteSync.Json
