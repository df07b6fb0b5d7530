import RouteSync.Credential.Keeper

/-! Where tokens come from. -/
namespace RouteSync.Credential

inductive TokenSource where
  /-- A catalogue that asks for no token is shown the empty one. -/
  | free
  | keeper (k : Keeper)
  deriving DecidableEq, Inhabited

/-- The source after a fetch, and what the fetch gave. -/
structure Drawn where
  after : TokenSource
  answer : Except TokenError Token
  log : List Log.Record := []
  calls : List Http.Call := []

/-- An answer that has to be called for counts as there at once. -/
def TokenSource.fetch (s : TokenSource) (send : Http.Send) (forced : Bool) (now : Nat) : Drawn :=
  match s with
  | .free => { after := s, answer := .ok {} }
  | .keeper k =>
    let f := k.fetch send forced now now
    { after := .keeper f.after, answer := f.answer, log := f.log, calls := f.calls }

end RouteSync.Credential
