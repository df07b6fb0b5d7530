import RouteSync.Decimal.Binary64

/-! What a settings document holds. -/
namespace RouteSync.Toml

/-- How a table came about, which settles what may still be added to it. -/
inductive Origin where
  /-- Written between braces, and complete. -/
  | braces
  /-- Written under a header of its own. -/
  | header
  /-- Named only as part of another table's header. -/
  | passed
  /-- Made by a dotted key. -/
  | dotted
  deriving DecidableEq, Inhabited

inductive Value where
  | string (text : String)
  | integer (value : Int)
  | decimal (value : Decimal.Binary64)
  | bool (value : Bool)
  | moment
  | array (items : List Value)
  | table (origin : Origin) (entries : List (String × Value))
  /-- The tables under repeated headers of one name. -/
  | tables (all : List (List (String × Value)))
  /-- A value and how many characters of the document are left where it starts. -/
  | placed (left : Nat) (value : Value)
  deriving Inhabited

/-- Entries in the order in which they were first put in. -/
abbrev Entries := List (String × Value)

/-- A value without its place. -/
def Value.bare : Value → Value
  | .placed _ v => v.bare
  | v => v

/-- A value in the place of another, unless it has one of its own. -/
def Value.inPlaceOf (v old : Value) : Value :=
  match v, old with
  | .placed left v, _ => .placed left v
  | v, .placed left _ => .placed left v
  | v, _ => v

end RouteSync.Toml
