/-
Log entries: what the client tells whoever watches it, beside the notifications to its user.
-/

namespace GatewayLogin

/-- How much an entry matters, and how much is let through. -/
inductive LogLevel where
  | error
  | warn
  | info
  | debug
  | trace
deriving Repr, DecidableEq, Inhabited

def LogLevel.name : LogLevel → String
  | .error => "error"
  | .warn => "warn"
  | .info => "info"
  | .debug => "debug"
  | .trace => "trace"

def LogLevel.label : LogLevel → String
  | .error => "ERROR"
  | .warn => "WARN"
  | .info => "INFO"
  | .debug => "DEBUG"
  | .trace => "TRACE"

/-- All levels, the weightiest first. -/
def LogLevel.all : List LogLevel := [.error, .warn, .info, .debug, .trace]

/-- One entry: a fixed message and named values as text. -/
structure LogEntry where
  level : LogLevel
  message : String
  fields : List (String × String) := []
deriving Repr, DecidableEq, Inhabited

end GatewayLogin
