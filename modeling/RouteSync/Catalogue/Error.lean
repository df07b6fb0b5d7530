import RouteSync.Json.Fault
import RouteSync.Stream.Decoder

/-! Why the catalogue did not answer. -/
namespace RouteSync.Catalogue

inductive SourceError where
  | unauthorized (body : String)
  | status (code : Nat) (body : String)
  | transport
  | decode (fault : Json.Fault)
  | lineTooLong (limit : Nat)
  | ended
  | closed
  deriving DecidableEq, Inhabited

def faultText : Json.Fault → String
  | .malformed => "malformed document"
  | .truncated => "document ends too early"
  | .mismatch _ what => what.message

def SourceError.message : SourceError → String
  | .unauthorized body => "unauthorized: " ++ body
  | .status code body => "routing API returned " ++ toString code ++ ": " ++ body
  | .transport => "routing API request failed"
  | .decode fault => "invalid routing API payload: " ++ faultText fault
  | .lineTooLong limit => "event stream line longer than " ++ toString limit ++ " bytes"
  | .ended => "event stream ended"
  | .closed => "event source closed"

end RouteSync.Catalogue
