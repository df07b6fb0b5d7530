import RouteSync.Clock.Duration
import RouteSync.Credential.Token
import RouteSync.Http.Call
import RouteSync.Log
import RouteSync.Text.Base64

/-! Fetching tokens, and keeping the last one as long as it is good. -/
namespace RouteSync.Credential

open Http

inductive TokenError where
  | unreachable (url : String) (fault : CallFault)
  | refused (status : Nat) (body : String)
  /-- The answer holds no token. -/
  | unreadable
  deriving DecidableEq, Inhabited

def TokenError.message : TokenError → String
  | .unreachable url _ => "Failed to request token from " ++ url
  | .refused status body =>
    "token request failed (status=" ++ statusText status ++ "): " ++ body
  | .unreadable => "Failed to decode token response"

/-- The message with the cause behind it. -/
def TokenError.chain (e : TokenError) : String :=
  match e with
  | .unreachable _ fault => e.message ++ ": " ++ fault.message
  | _ => e.message

/-- A token and when it was fetched. -/
structure Kept where
  token : Token
  since : Nat
  deriving DecidableEq, Inhabited

structure Keeper where
  url : String
  client : String
  secret : String
  /-- A token so close to its end is fetched anew. -/
  margin : Clock.Duration := Clock.seconds 30
  kept : Option Kept := none
  deriving DecidableEq, Inhabited

/-- The answer, the keeper after it, and the calls made for it. -/
structure Fetched where
  after : Keeper
  answer : Except TokenError Token
  log : List Log.Record := []
  calls : List Call := []

namespace Keeper

def ofEndpoint (endpoint client secret : String) : Keeper where
  url := base endpoint ++ "/oauth/token"
  client
  secret

/-- The client and its secret, as a header bears them. -/
def authorization (k : Keeper) : String :=
  "Basic " ++ String.ofList (Text.Base64.encode (Text.Utf8.bytes (k.client ++ ":" ++ k.secret)))

def call (k : Keeper) : Call where
  method := "POST"
  url := k.url
  authorization := some k.authorization
  contentType := some "application/x-www-form-urlencoded"
  body := Text.Utf8.bytes "grant_type=client_credentials"

/-- Whether a kept token is still good at `now`, with the margin to spare. -/
def stillGood (k : Keeper) (kept : Kept) (now : Nat) : Bool :=
  now - kept.since + k.margin < Clock.seconds kept.token.lifetime.toNat

/-- The kept token, if it may be used again. -/
def reusable? (k : Keeper) (forced : Bool) (now : Nat) : Option Token :=
  if forced then none
  else (k.kept.filter fun kept => k.stillGood kept now).map Kept.token

def read (k : Keeper) : Except CallFault Reply → Except TokenError Token
  | .error fault => .error (.unreachable k.url fault)
  | .ok reply =>
    if succeeds reply.status then
      match reply.bytes?.map Token.ofJson? with
      | some (.ok token) => .ok token
      | _ => .error .unreadable
    else .error (.refused reply.status reply.text)

def fetching (k : Keeper) (forced : Bool) : Log.Record :=
  Log.debug ("Fetching OAuth token from " ++ k.url ++ " (force_refresh=" ++ toString forced ++ ").")

/-- A token that is fetched replaces the kept one, as of when the answer to the call was there; a
failure leaves it as it is. -/
def fetch (k : Keeper) (send : Send) (forced : Bool) (asked answered : Nat) : Fetched :=
  match k.reusable? forced asked with
  | some token => { after := k, answer := .ok token }
  | none =>
    let answer := k.read (send k.call)
    let after := match answer with
      | .ok token => { k with kept := some ⟨token, answered⟩ }
      | .error _ => k
    { after, answer, log := [k.fetching forced], calls := [k.call] }

end Keeper

end RouteSync.Credential
