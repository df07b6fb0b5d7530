import RouteSync.Http.Call

/-! Calls where there is no network. -/
namespace RouteSync.Http

/-- Why a host cannot be reached. Of all names only that of the machine itself has an address. -/
def outOfReach : UrlHost → String
  | .ip (.v6 _) => "tcp connect error: Cannot assign requested address (os error 99)"
  | .ip (.v4 _) | .name "localhost" => "tcp connect error: Network is unreachable (os error 101)"
  | .name _ =>
    "dns error: failed to lookup address information: Temporary failure in name resolution"

/-- Nothing ever comes back. -/
def offline : Send := fun call =>
  match Url.ofText call.url with
  | .error fault => .error (.address fault)
  | .ok url => .error (.lost url ("client error (Connect): " ++ outOfReach url.host))

end RouteSync.Http
