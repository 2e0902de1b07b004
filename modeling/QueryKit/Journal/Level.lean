import QueryKit.Fault.Basic
import QueryKit.Text.Case
import QueryKit.Text.Blank

/-!
# Log levels

Levels order log entries by urgency: trace, debug, info, warn, error, fatal, and `silent`
above them all, which no entry has and which turns a logger off. A level is its rank, so a
logger may be set to a rank without a name.

* `Level.name` is `TRACE` … `SILENT`, and `UNKNOWN` for other ranks; `Level.color` is the
  terminal colour of its entries;
* `Level.parse` reads a level name (any case, blanks trimmed; `warning` and `off` are aliases,
  and the empty name is `info`), falling back to `info` with a configuration fault.
-/

namespace QueryKit.Journal

/-- **Log levels**, by rank. -/
structure Level where
  /-- 0 trace, 1 debug, 2 info, 3 warn, 4 error, 5 fatal, 6 silent. -/
  rank : Int
  deriving Repr, BEq, DecidableEq, Inhabited

namespace Level

def trace : Level := ⟨0⟩
def debug : Level := ⟨1⟩
def info : Level := ⟨2⟩
def warn : Level := ⟨3⟩
def error : Level := ⟨4⟩
def fatal : Level := ⟨5⟩
def silent : Level := ⟨6⟩

/-- The upper-case name of a level. -/
def name (l : Level) : String :=
  match l.rank with
  | 0 => "TRACE"
  | 1 => "DEBUG"
  | 2 => "INFO"
  | 3 => "WARN"
  | 4 => "ERROR"
  | 5 => "FATAL"
  | 6 => "SILENT"
  | _ => "UNKNOWN"

/-- The terminal colour that starts an entry of the level. -/
def color (l : Level) : String :=
  match l.rank with
  | 0 => "\x1b[37m"
  | 1 => "\x1b[36m"
  | 2 => "\x1b[32m"
  | 3 => "\x1b[33m"
  | 4 => "\x1b[31m"
  | 5 => "\x1b[35m"
  | _ => "\x1b[0m"

/-- The code that ends a coloured entry. -/
def reset : String := "\x1b[0m"

/-- **Reading a level name.** -/
def parse (s : String) : Level × Option Fault :=
  match Text.lower (Text.trim s) with
  | "trace" => (trace, none)
  | "debug" => (debug, none)
  | "info" | "" => (info, none)
  | "warn" | "warning" => (warn, none)
  | "error" => (error, none)
  | "fatal" => (fatal, none)
  | "silent" | "off" => (silent, none)
  | _ => (info, some (.config "logging.level" (.text s) "unknown log level" none))

end Level

/-- **Log entries**: a level, a message and fields in the order given. -/
structure Entry where
  level : Level
  message : String
  fields : List (String × Value) := []
  deriving Repr, Inhabited

end QueryKit.Journal
