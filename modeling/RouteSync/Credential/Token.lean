import RouteSync.Json.Value
import RouteSync.Route.Wire

/-! Tokens, and the document they come in. -/
namespace RouteSync.Credential

open Json

structure Token where
  text : String := ""
  /-- How long the token is good for, in seconds. -/
  lifetime : UInt64 := 0
  deriving DecidableEq, Inhabited

structure TokenDraft where
  text : Option String := none
  lifetime : Option UInt64 := none

def TokenDraft.token (d : TokenDraft) : Token := ⟨d.text.getD "", d.lifetime.getD 0⟩

namespace Token

def shape : Shape TokenDraft where
  name := "struct Token"
  start := {}
  fields := [
    .of "access_token" true (·.text) (fun v d => { d with text := some v }) string,
    .of "expires_in" false (·.lifetime) (fun v d => { d with lifetime := some v }) uint64]

def ofJson? (bytes : List UInt8) : Except Fault Token :=
  let input := signsOfBytes bytes
  document (TokenDraft.token <$> shape.read input.length) input

end Token
end RouteSync.Credential
