import RouteSync.Net.Host
import RouteSync.Net.Ip

/-! What a backend may be reached under. -/
namespace RouteSync.Net

def isIp (s : String) : Bool := (Ip.ofString? s).isSome

/-- An address is an internet address or a host name. -/
def isAddress (s : String) : Bool := isIp s || isHostName s

end RouteSync.Net
