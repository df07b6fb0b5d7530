import RouteSync.Settings.Basic
import RouteSync.Toml.Record

/-! The fields of the settings document. -/
namespace RouteSync.Settings

open Decode Toml

def takeString : Take String := takeText "a string"
def takePath : Take Disk.Path := takeText "path string"

def takeEndpoint : Take Net.Endpoint := fun v => do
  match Net.Endpoint.ofString? (← takeText "socket address" v) with
  | some e => return e
  | none => mismatch (.other "invalid socket address syntax")

def sourceRecord : Record Source where
  name := "struct RoutingApiConfig"
  start := {}
  fields := [
    .of "url" true takeString fun v s => { s with url := v },
    .of "auth_enabled" false takeBool fun v s => { s with authenticated := v },
    .of "skip_tls_verification" false takeBool fun v s => { s with unverified := v }]

def loginRecord : Record Login where
  name := "struct OAuthConfig"
  start := {}
  fields := [
    .of "token_endpoint" false takeString fun v s => { s with endpoint := v },
    .of "client_id" false takeString fun v s => { s with client := v },
    .of "client_secret" false takeString fun v s => { s with secret := v },
    .of "skip_tls_verification" false takeBool fun v s => { s with unverified := v }]

def filesRecord : Record Files where
  name := "struct HaproxyConfig"
  start := {}
  fields := [
    .of "base_config_path" true takePath fun v s => { s with basePath := v },
    .of "config_path" true takePath fun v s => { s with livePath := v },
    .of "reload_script_path" true takePath fun v s => { s with scriptPath := v },
    .of "drain_wait_secs" false takeCount fun v s => { s with drainSeconds := v }]

def tlsRecord : Record Proxy.TlsPolicy where
  name := "struct BackendTlsConfig"
  start := {}
  fields := [
    .of "enabled" false takeBool fun v s => { s with enabled := v },
    .of "ca_cert_path" false takeString fun v s => { s with authority := v },
    .of "client_cert_and_key_path" false takeString fun v s => { s with certificate := some v }]

def paceRecord : Record Pace where
  name := "struct IntervalsConfig"
  start := {}
  fields := [
    .of "sync_secs" false takeCount fun v s => { s with sync := v },
    .of "prune_secs" false takeCount fun v s => { s with prune := v },
    .of "subscription_retry_secs" false takeCount fun v s => { s with retry := v }]

def deskRecord : Record Desk where
  name := "struct AdminConfig"
  start := {}
  fields := [
    .of "listen_addr" false takeEndpoint fun v s => { s with listen := some v },
    .of "reservable_ports" false takeString fun v s => { s with ports := v }]

def record : Record Settings where
  name := "struct Config"
  start := {}
  fields := [
    .of "routing_api" true sourceRecord.take fun v s => { s with source := v },
    .of "oauth" false loginRecord.take fun v s => { s with login := v },
    .of "haproxy" true filesRecord.take fun v s => { s with files := v },
    .of "backend_tls" false tlsRecord.take fun v s => { s with tls := v },
    .of "intervals" false paceRecord.take fun v s => { s with pace := v },
    .of "admin" false deskRecord.take fun v s => { s with desk := v }]

end RouteSync.Settings
