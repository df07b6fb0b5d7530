import RouteSync.Json.Text

/-! Compact objects: fields in order, absent ones left out. -/
namespace RouteSync.Json

/-- A field's name and its value's text, if it has one. -/
abbrev Member := String × Option String

def member (name text : String) : Member := (name, some text)

def Member.text? (m : Member) : Option String := m.2.map fun value => quote m.1 ++ ":" ++ value

def objectText (members : List Member) : String :=
  "\x7b" ++ ",".intercalate (members.filterMap Member.text?) ++ "\x7d"

end RouteSync.Json
