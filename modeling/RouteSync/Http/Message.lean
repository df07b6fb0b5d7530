/-! Requests and their answers. -/
namespace RouteSync.Http

structure Request where
  method : String
  /-- A path, or a whole address with one in it; after it a query or a fragment. -/
  target : String
  contentType : Option String
  body : List UInt8
  deriving DecidableEq, Inhabited

/-- What follows scheme and host of a whole address. -/
def afterHost : List Char → Option (List Char)
  | ':' :: '/' :: '/' :: rest => some (rest.dropWhile (!endsHost ·))
  | c :: rest => if endsHost c then none else afterHost rest
  | [] => none
where
  endsHost (c : Char) : Bool := c = '/' || c = '?' || c = '#'

/-- The path up to a query or a fragment. An address without one has the path of its top. -/
def Request.path (r : Request) : String :=
  let target := r.target.toList
  let path := ((afterHost target).getD target).takeWhile fun c => c ≠ '?' && c ≠ '#'
  if path.isEmpty && (afterHost target).isSome then "/" else String.ofList path

/-- An answer with nothing in it, or with an error told in words. -/
structure Response where
  status : Nat
  error : Option String := none
  deriving DecidableEq, Inhabited

end RouteSync.Http
