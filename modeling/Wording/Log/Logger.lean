import Wording.Value.Basic
import Wording.Value.Failure

/-!
# Loggers

The logger of the library, with its handlers and its level, and the timing of calls. A timed call is
a warning if it took as long as its threshold and a matter for debugging if it did not; a record is
made only if its level is enabled. Data may have neither the name of a setting of the call nor, if a
record is made, that of a field that every record has.
-/

namespace Wording

namespace LogLevel

def debug : Int := 10
def info : Int := 20
def warning : Int := 30

/-- The name of a level. -/
def name (n : Int) : String := if n = warning then "WARNING" else "DEBUG"

/-- Levels that can be set by name. -/
def named : List (String × Int) :=
  [("CRITICAL", 50), ("FATAL", 50), ("ERROR", 40), ("WARN", 30), ("WARNING", 30), ("INFO", 20),
    ("DEBUG", 10), ("NOTSET", 0)]

/-- The level that a value stands for. -/
def ofValue : Value → Except Failure Int
  | .int n => .ok n
  | .bool b => .ok (if b then 1 else 0)
  | .str s => match named.find? (·.1 == s) with
    | some (_, n) => .ok n
    | none => .error .value
  | _ => .error .type

end LogLevel

structure Logger where
  handlers : Nat
  /-- Zero for a level that is not set. -/
  level : Int
  deriving DecidableEq, Repr

namespace Logger

/-- How a record is written. -/
def format : String := "%(asctime)s | %(levelname)s | %(name)s | %(message)s"

def start : Logger := ⟨0, 0⟩

def setLevel (l : Logger) (level : Value) : Except Failure Logger := do
  return { l with level := ← LogLevel.ofValue level }

/-- Gives a logger without handlers one and a level; the handler stays where the level is refused.
-/
def configure (l : Logger) (level : Value) : Logger × Except Failure Unit :=
  if l.handlers > 0 then (l, .ok ())
  else
    match { l with handlers := 1 }.setLevel level with
    | .ok l => (l, .ok ())
    | .error f => ({ l with handlers := 1 }, .error f)

/-- The level from which on records are made. -/
def threshold (l : Logger) : Int := if l.level = 0 then LogLevel.warning else l.level

/-- The full name of a part's logger. -/
def childName (name : String) : String := "messagebox." ++ name

end Logger

/-! ## Timed calls -/

namespace TimedCall

/-- The names that every record uses for its own data. -/
def reserved : List String :=
  ["message", "asctime", "name", "msg", "args", "levelname", "levelno", "pathname", "filename",
    "module", "exc_info", "exc_text", "stack_info", "lineno", "funcName", "created", "msecs",
    "relativeCreated", "thread", "threadName", "processName", "process"]

/-- The names that a timed call uses for its own settings. -/
def settings : List String := ["name", "logger", "threshold_ms"]

/-- The name under which a record holds the time. -/
def elapsed : String := "elapsed_ms"

/-- The threshold where none is given, longer than any call that does nothing. -/
def defaultThreshold : Int := 50

structure Record where
  level : Int
  name : String
  fields : List (String × Value)

/-- The level of a call that took next to no time. -/
def level (threshold : Int) : Int := if threshold ≤ 0 then LogLevel.warning else LogLevel.debug

/-- The record of a timed call, if one is made. -/
def record (l : Logger) (name : String) (threshold : Int) (fields : List (String × Value)) :
    Except Failure (Option Record) :=
  if fields.any fun f => settings.contains f.1 then .error .type
  else if level threshold < l.threshold then .ok none
  else if fields.any fun f => reserved.contains f.1 then .error .key
  else .ok (some ⟨level threshold, name, fields.filter (·.1 != elapsed)⟩)

end TimedCall

end Wording
