import RouteSync.Decimal.Text
import RouteSync.Decode.Mismatch
import RouteSync.Toml.Value

/-! Taking plain values and records out of a document. -/
namespace RouteSync.Toml

open Decode

/-- What is wrong with a value, and how much of the document is left where it starts. -/
structure Misfit where
  what : Mismatch
  left : Option Nat := none
  deriving DecidableEq, Inhabited

/-- The place of the innermost value counts. -/
def Misfit.within (m : Misfit) (v : Value) : Misfit :=
  match m.left, v with
  | none, .placed left _ => { m with left := some left }
  | _, _ => m

abbrev Take (α : Type) := Value → Except Misfit α

/-- Numbers with a fraction are named without an exponent, and a half goes up. -/
def decimalStyle : Decimal.Style := { tie := .larger }

def Value.found : Value → Found
  | .string s => .text s
  | .integer n => .integer n
  | .decimal x => .decimal (x.text decimalStyle)
  | .bool b => .bool b
  | .moment | .table .. => .map
  | .array _ | .tables _ => .sequence
  | .placed _ v => v.found

def mismatch {α : Type} (what : Mismatch) : Except Misfit α := .error { what }

def Value.unexpected {α : Type} (v : Value) (expected : String) : Except Misfit α :=
  mismatch (.kind v.found expected)

def takeBool : Take Bool
  | .bool b => .ok b
  | v => v.unexpected "a boolean"

/-- A text; `expected` says in errors what it stands for. -/
def takeText (expected : String) : Take String
  | .string s => .ok s
  | v => v.unexpected expected

/-- A whole number that is not negative. -/
def takeCount : Take Nat
  | .integer n => if 0 ≤ n then .ok n.toNat else mismatch (.value (.integer n) "u64")
  | v => v.unexpected "u64"

/-- A field of a record: its value is put in as soon as it is taken. -/
structure Field (σ : Type) where
  name : String
  required : Bool
  take : Value → σ → Except Misfit σ

def Field.of {α σ : Type} (name : String) (required : Bool) (take : Take α) (put : α → σ → σ) :
    Field σ :=
  ⟨name, required, fun v s => do
    let taken ← (take v.bare).mapError (·.within v)
    return put taken s⟩

/-- A record holds something in every field from the start; of a required field that never shows. -/
structure Record (σ : Type) where
  name : String
  fields : List (Field σ)
  start : σ

namespace Record

variable {σ : Type}

/-- Unknown keys are skipped. The first fault in the order of the entries counts, and only then a
field that is missing. -/
def ofEntries (r : Record σ) (entries : Entries) : Except Misfit σ := do
  let s ← entries.foldlM (fun s entry =>
    match r.fields.find? (·.name = entry.1) with
    | some field => field.take entry.2 s
    | none => return s) r.start
  match r.fields.find? fun field => field.required && !entries.any (·.1 = field.name) with
  | some field => mismatch (.missing field.name)
  | none => return s

/-- Items stand for the fields in their order; those left over are skipped. -/
def ofItems (r : Record σ) (index : Nat) : List (Field σ) → List Value → σ → Except Misfit σ
  | [], _, s => return s
  | field :: fields, v :: vs, s => do r.ofItems (index + 1) fields vs (← field.take v s)
  | field :: fields, [], s =>
    if field.required then mismatch (.length index (listedName r.name r.fields.length))
    else r.ofItems (index + 1) fields [] s

/-- A moment is a table that holds nothing known. -/
def take (r : Record σ) : Take σ
  | .table _ entries => r.ofEntries entries
  | .moment => r.ofEntries []
  | .array items => r.ofItems 0 r.fields items r.start
  | .tables all => r.ofItems 0 r.fields (all.map (.table .header)) r.start
  | v => v.unexpected r.name

end Record
end RouteSync.Toml
