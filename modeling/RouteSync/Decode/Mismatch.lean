import RouteSync.Text.Quoted

/-! How a well-formed document can fail to be what a reader asks for. -/
namespace RouteSync.Decode

/-- What stands in the place of the expected. -/
inductive Found where
  | bool (value : Bool)
  | integer (value : Int)
  /-- A number with a fraction, in the spelling of the document's format. -/
  | decimal (text : String)
  | text (value : String)
  | null
  | sequence
  | map
  deriving DecidableEq, Inhabited

def Found.name : Found → String
  | .bool b => "boolean `" ++ toString b ++ "`"
  | .integer n => "integer `" ++ toString n ++ "`"
  | .decimal digits => "floating point `" ++ digits ++ "`"
  | .text s => "string " ++ Text.quoted s
  | .null => "null"
  | .sequence => "sequence"
  | .map => "map"

inductive Mismatch where
  | kind (found : Found) (expected : String)
  | value (found : Found) (expected : String)
  | missing (field : String)
  | duplicate (field : String)
  | variant (name : String) (first second : String)
  | length (count : Nat) (expected : String)
  | other (text : String)
  deriving DecidableEq, Inhabited

def Mismatch.message : Mismatch → String
  | .kind found expected => "invalid type: " ++ found.name ++ ", expected " ++ expected
  | .value found expected => "invalid value: " ++ found.name ++ ", expected " ++ expected
  | .missing field => "missing field `" ++ field ++ "`"
  | .duplicate field => "duplicate field `" ++ field ++ "`"
  | .variant name first second =>
    "unknown variant `" ++ name ++ "`, expected `" ++ first ++ "` or `" ++ second ++ "`"
  | .length count expected => "invalid length " ++ toString count ++ ", expected " ++ expected
  | .other message => message

/-- A record that was written as a list, by its name and the number of its fields. -/
def listedName (name : String) (fields : Nat) : String :=
  name ++ " with " ++ toString fields ++ if fields = 1 then " element" else " elements"

/-- A way from a value to one of its parts. -/
inductive Step where
  | field (name : String)
  | item (index : Nat)
  deriving DecidableEq, Inhabited

/-- Fields after a point, except at the very start, and items in brackets. -/
def pathText : List Step → String
  | [] => ""
  | .field name :: rest => name ++ go rest
  | .item index :: rest => "[" ++ toString index ++ "]" ++ go rest
where
  go : List Step → String
    | [] => ""
    | .field name :: rest => "." ++ name ++ go rest
    | .item index :: rest => "[" ++ toString index ++ "]" ++ go rest

end RouteSync.Decode
