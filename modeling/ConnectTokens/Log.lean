/-!
# Log lines

What a program of this library tells about its work.

## Main Definitions

* `LogEntry`, `LogEntry.line`: a message with its level.
-/

namespace ConnectTokens

/-- How urgent a message is. -/
inductive LogLevel where
  | error
  | warn
  | info
  | debug
deriving DecidableEq, Repr

/-- The word for a level. -/
def LogLevel.name : LogLevel → String
  | error => "ERROR"
  | warn => "WARN"
  | info => "INFO"
  | debug => "DEBUG"

/-- A message with its level. -/
@[ext] structure LogEntry where
  level : LogLevel
  message : String
deriving DecidableEq, Repr

/-- An entry as one line. -/
def LogEntry.line (e : LogEntry) : String := e.level.name ++ " " ++ e.message

end ConnectTokens
