import RouteSync.Catalogue.Error
import RouteSync.Reconcile.Basic

/-! One bulk sync, step by step. Between two of its steps anything else may happen. -/
namespace RouteSync

open Catalogue

/-- Where a sync stands. -/
inductive SyncCall where
  /-- A token was asked for. -/
  | fetching
  /-- The token is in use; no listing was asked for yet. -/
  | entering
  /-- The first listing was asked for. -/
  | listing
  /-- The token was refused and a new one asked for. -/
  | refreshing
  /-- The second listing was asked for. -/
  | relisting
  /-- There is a listing, or the reason why there is none. -/
  | merging (listing : Reconciler.Listing)
  | finished

/-- A token, or the reason in words why there is none. -/
abbrev TokenAnswer := Except String String

abbrev ListingAnswer := Except SourceError (List Mapping)

/-- The next place of a sync, and what it did on the way. -/
structure SyncStep where
  call : SyncCall
  acts : List Act

namespace SyncCall

def tokenFailed (what : String) : Act := .log (Log.error ("error-fetching-token: " ++ what))

/-- Without a token there is no sync. -/
def fetched : TokenAnswer → SyncStep
  | .ok token => ⟨.entering, [.fetchToken false true, .useToken token]⟩
  | .error what => ⟨.finished, [.fetchToken false false, tokenFailed what]⟩

/-- Asks for the listing, unless another sync is at it. -/
def enter (r : Reconciler) : Reconciler × SyncStep :=
  if r.syncing then
    (r, ⟨.finished, [.log (Log.debug "Bulk sync already in progress, skipping.")]⟩)
  else
    ({ r with syncing := true },
      ⟨.listing, [.log (Log.debug "Starting bulk sync of TCP routes."), .list]⟩)

def listingOf : ListingAnswer → Reconciler.Listing
  | .ok mappings => .ok mappings
  | .error e => .error e.message

/-- A refused token is refreshed, once. -/
def listed : ListingAnswer → SyncStep
  | .error (.unauthorized body) =>
    ⟨.refreshing, [.log (Log.warn ("Routing API rejected the token, refreshing it: " ++
      (SourceError.unauthorized body).message))]⟩
  | answer => ⟨.merging (listingOf answer), []⟩

def refreshed : TokenAnswer → SyncStep
  | .ok token => ⟨.relisting, [.fetchToken true true, .useToken token, .list]⟩
  | .error what => ⟨.merging (.error what), [.fetchToken true false]⟩

def relisted (answer : ListingAnswer) : SyncStep := ⟨.merging (listingOf answer), []⟩

end SyncCall
end RouteSync
