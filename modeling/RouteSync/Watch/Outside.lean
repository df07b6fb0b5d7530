import RouteSync.Reconcile.Sync

/-! A world that answers from a script, and writes down what is done to it. -/
namespace RouteSync.Watch

/-- An act and when it happened. Log records bear no time. -/
structure Entry where
  time : Option Nat
  act : Act

structure Outside where
  now : Nat := 0
  /-- Whether the next tokens are given; after those, all are. -/
  tokens : List Bool := []
  /-- How many tokens were asked for. -/
  asked : Nat := 0
  /-- The next listings; after those, all are empty. -/
  listings : List ListingAnswer := []
  configureFails : Bool := false
  /-- How long the proxy takes over a snapshot. -/
  configureTime : Nat := 0
  /-- What was done, last first. -/
  trace : List Entry := []

namespace Outside

/-- Tokens are numbered by the calls that ask for them. -/
def token (o : Outside) : TokenAnswer × Outside :=
  let number := o.asked + 1
  let given := o.tokens.headD true
  (if given then .ok ("token-" ++ toString number)
    else .error "token endpoint unavailable: connection refused",
    { o with asked := number, tokens := o.tokens.tail })

def listing (o : Outside) : ListingAnswer × Outside :=
  (o.listings.headD (.ok []), { o with listings := o.listings.tail })

def outcome (o : Outside) : Outcome :=
  if o.configureFails then .error "configurer failure: disk full" else .ok ()

def note (o : Outside) (act : Act) : Outside :=
  match act with
  | .log _ => { o with trace := ⟨none, act⟩ :: o.trace }
  | .configure _ =>
    let done := o.now + o.configureTime
    { o with now := done, trace := ⟨some done, act⟩ :: o.trace }
  | _ => { o with trace := ⟨some o.now, act⟩ :: o.trace }

def noteAll (o : Outside) (acts : List Act) : Outside := acts.foldl note o

def wait (o : Outside) (time : Nat) : Outside := { o with now := o.now + time }

/-- Takes the trace off, in order. -/
def flush (o : Outside) : List Entry × Outside := (o.trace.reverse, { o with trace := [] })

end Outside
end RouteSync.Watch
