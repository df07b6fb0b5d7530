import RouteSync.Http.Status
import RouteSync.Http.Url
import RouteSync.Text.Utf8

/-! Calls to other servers, and what comes back. -/
namespace RouteSync.Http

/-- The name and version that calls carry. -/
def agent : String := "tcp-router/0.1.0"

structure Call where
  method : String
  url : String
  authorization : Option String := none
  accept : String := "*/*"
  contentType : Option String := none
  body : List UInt8 := []
  deriving DecidableEq, Inhabited

/-- What arrives of a body. -/
inductive Delivery where
  | chunk (bytes : List UInt8)
  | failure
  deriving DecidableEq, Inhabited

def Delivery.bytes? : Delivery → Option (List UInt8)
  | .chunk bytes => some bytes
  | .failure => none

structure Reply where
  status : Nat
  body : List Delivery
  deriving DecidableEq, Inhabited

/-- Why nothing comes back. -/
inductive CallFault where
  | address (fault : UrlFault)
  /-- The server cannot be reached, or goes away. -/
  | lost (target : Url) (why : String)
  deriving DecidableEq, Inhabited

def CallFault.message : CallFault → String
  | .address fault => fault.message
  | .lost target why => "error sending request for url (" ++ target.text ++ "): " ++ why

abbrev Send := Call → Except CallFault Reply

/-- The whole body, unless its delivery fails. -/
def Reply.bytes? (r : Reply) : Option (List UInt8) :=
  (r.body.mapM Delivery.bytes?).map List.flatten

/-- The body as a text; one that does not arrive is taken for empty. -/
def Reply.text (r : Reply) : String := Text.Utf8.lossy (r.bytes?.getD [])

/-- Whether a text can stand in a header: it holds no control character but tabs. -/
def fitsHeader (s : String) : Bool :=
  s.toList.all fun c => c = '\t' || (32 ≤ c.toNat && c.toNat ≠ 127)

/-- A server's address without the slashes at its end. -/
def base (url : String) : String :=
  String.ofList (url.toList.reverse.dropWhile (· = '/')).reverse

end RouteSync.Http
