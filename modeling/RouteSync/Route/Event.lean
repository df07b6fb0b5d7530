import RouteSync.Route.Mapping

/-! What the catalogue announces: a mapping was put in force or withdrawn. -/
namespace RouteSync

inductive Action where
  | upsert | delete
  deriving DecidableEq, Inhabited

namespace Action

def name : Action → String
  | .upsert => "Upsert"
  | .delete => "Delete"

def ofName? : String → Option Action
  | "Upsert" => some .upsert
  | "Delete" => some .delete
  | _ => none

end Action

structure Event where
  action : Action
  mapping : Mapping
  deriving DecidableEq, Inhabited

end RouteSync
