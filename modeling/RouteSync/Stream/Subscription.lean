import RouteSync.Catalogue.Error
import RouteSync.Http.Call
import RouteSync.Log
import RouteSync.Route.Wire

/-! A subscription: the events of a body that arrives in chunks. -/
namespace RouteSync.Stream

open Catalogue Http

/-- What an event means: nothing to us, an event of a route, or data that cannot be read. -/
inductive Meaning where
  | skipped (log : Log.Record)
  | event (event : Event)
  | fault (fault : Json.Fault)

def RawEvent.meaning (raw : RawEvent) : Meaning :=
  match Action.ofName? raw.name with
  | none =>
    .skipped (Log.warn
      ("Skipping routing API event of unknown type " ++ Text.quoted raw.name ++ "."))
  | some action =>
    match Mapping.ofJson? raw.data with
    | .ok mapping => .event ⟨action, mapping⟩
    | .error fault => .fault fault

/-- The body is absent once its end was seen. -/
structure Subscription where
  body : Option (List Delivery)
  decoder : Decoder := {}
  pending : List RawEvent := []
  closed : Bool := false
  deriving DecidableEq, Inhabited

abbrev Answer := Except SourceError Event

/-- What is left after the first event that means something, the answer to it, and the log of
those skipped before it. -/
structure Skim where
  answer : Option Answer
  rest : List RawEvent
  log : List Log.Record

def skim : List RawEvent → Skim
  | [] => ⟨none, [], []⟩
  | raw :: raws =>
    match raw.meaning with
    | .skipped record =>
      let later := skim raws
      { later with log := record :: later.log }
    | .event e => ⟨some (.ok e), raws, []⟩
    | .fault f => ⟨some (.error (.decode f)), raws, []⟩

namespace Subscription

structure Next where
  answer : Answer
  after : Subscription
  log : List Log.Record

/-- Takes deliveries until an event that means something is complete. -/
def pull (s : Subscription) (log : List Log.Record) : List Delivery → Next
  | [] => ⟨.error .ended, { s with body := none, pending := [] }, log⟩
  | .failure :: ds => ⟨.error .transport, { s with body := some ds, pending := [] }, log⟩
  | .chunk bytes :: ds =>
    match s.decoder.push bytes with
    | (d, none) =>
      ⟨.error (.lineTooLong maxLine), { s with body := some ds, decoder := d, pending := [] }, log⟩
    | (d, some raws) =>
      let found := skim raws
      match found.answer with
      | some answer =>
        ⟨answer, { s with body := some ds, decoder := d, pending := found.rest }, log ++ found.log⟩
      | none => pull { s with decoder := d } (log ++ found.log) ds

/-- The next event. Those that are complete already come before anything new. -/
def next (s : Subscription) : Next :=
  if s.closed then ⟨.error .closed, s, []⟩
  else
    let found := skim s.pending
    match found.answer, s.body with
    | some answer, _ => ⟨answer, { s with pending := found.rest }, found.log⟩
    | none, some deliveries => s.pull found.log deliveries
    | none, none => ⟨.error .closed, { s with pending := [] }, found.log⟩

def close (s : Subscription) : Subscription := { s with closed := true }

end Subscription
end RouteSync.Stream
