/-! Log records as data: what a step has to say is part of its result. -/
namespace RouteSync.Log

inductive Level where
  | debug | info | warn | error
  deriving DecidableEq, Inhabited

def Level.name : Level → String
  | .debug => "DEBUG"
  | .info => "INFO"
  | .warn => "WARN"
  | .error => "ERROR"

structure Record where
  level : Level
  text : String
  deriving DecidableEq, Inhabited

def debug (text : String) : Record := ⟨.debug, text⟩
def info (text : String) : Record := ⟨.info, text⟩
def warn (text : String) : Record := ⟨.warn, text⟩
def error (text : String) : Record := ⟨.error, text⟩

/-- The level's name, a space, the text. -/
def Record.line (r : Record) : String := r.level.name ++ " " ++ r.text

end RouteSync.Log
