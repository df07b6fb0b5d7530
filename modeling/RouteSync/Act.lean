import RouteSync.Table.Basic

/-! What a step does to the world around it. -/
namespace RouteSync

inductive Act where
  | log (record : Log.Record)
  /-- A token was asked for, by force or not, and given or not. -/
  | fetchToken (forced ok : Bool)
  | useToken (token : String)
  | list
  | configure (snapshot : Snapshot)
  /-- An event stream was asked for, and opened or not. -/
  | subscribe (ok : Bool)
  | close

def Act.logs (records : List Log.Record) : List Act := records.map .log

end RouteSync
