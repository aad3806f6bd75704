import TraceSampler.Text.Basic
import TraceSampler.Unicode.LetterCase

/-!
# Log levels

How serious a log record is. A level is named in configuration by its name in any case of letters,
with blank characters around it.

* `Level.ofText?_name`: every level is read back from its name.
-/

namespace TraceSampler.Log

inductive Level
  | error
  | warn
  | info
  | debug
  | trace
  deriving DecidableEq, Repr, Inhabited

namespace Level

/-- The level where none is configured. -/
def standard : Level := .info

/-- The place of a level from the most to the least serious. -/
def rank : Level → Nat
  | .error => 1
  | .warn => 2
  | .info => 3
  | .debug => 4
  | .trace => 5

/-- The name in log lines. -/
def name : Level → String
  | .error => "ERROR"
  | .warn => "WARN"
  | .info => "INFO"
  | .debug => "DEBUG"
  | .trace => "TRACE"

/-- The name in filters. -/
def directive : Level → String
  | .error => "error"
  | .warn => "warn"
  | .info => "info"
  | .debug => "debug"
  | .trace => "trace"

/-- The level with a name in small letters. -/
def ofDirective? (s : String) : Option Level :=
  match s with
  | "error" => some .error
  | "warn" => some .warn
  | "info" => some .info
  | "debug" => some .debug
  | "trace" => some .trace
  | _ => none

def ofText? (s : String) : Option Level := ofDirective? (Unicode.lowered (Text.strip s))

/-- Every level is read back from its name. -/
theorem ofText?_name (l : Level) : ofText? l.name = some l := by
  cases l <;> decide +kernel

/-- What is said of a text that names no level. -/
def invalidMessage (s : String) : String :=
  "Invalid log level: '" ++ s ++ "'. Valid levels are: error, warn, info, debug, trace"

/-- A record of this level passes where records up to `most` do. -/
def passes (level most : Level) : Bool := level.rank ≤ most.rank

end Level

end TraceSampler.Log
