import Refetch.Recorded
import Refetch.Text.Inert

/-!
# Log lines

The lines that a run writes beside its output, each with a level, and how the level up to
which they are shown is chosen.
-/

namespace Refetch

/-- How much a line matters. -/
inductive LogLevel where
  /-- something is off -/
  | warn
  /-- what was done -/
  | info
  /-- how it is done -/
  | debug
  /-- every step -/
  | trace
  deriving DecidableEq, Repr

namespace LogLevel

/-- The name of a level. -/
def name : LogLevel → String
  | warn => "WARN"
  | info => "INFO"
  | debug => "DEBUG"
  | trace => "TRACE"

/-- The rank of a level: the more it shows, the higher. -/
def rank : LogLevel → Nat
  | warn => 0
  | info => 1
  | debug => 2
  | trace => 3

/-- The level of a setting. -/
def ofSetting? (setting : String) : Option LogLevel :=
  if setting = "DEBUG" || setting = "debug" then some debug
  else if setting = "INFO" || setting = "info" then some info
  else if setting = "TRACE" || setting = "trace" then some trace
  else if setting = "VERBOSE" || setting = "verbose" then some debug
  else if setting = "WARN" || setting = "warn" then some warn
  else none

end LogLevel

/-- A line of the log. -/
structure LogLine where
  /-- how much it matters -/
  level : LogLevel
  /-- what it says -/
  text : String
  deriving DecidableEq, Repr

/-- A computation that logs. -/
abbrev Logged := Recorded LogLine

/-- Logs one line. -/
def log (level : LogLevel) (text : String) : Logged Unit := .note ⟨level, text⟩ ()

/-- Logs some lines. -/
def logAll (lines : List LogLine) : Logged Unit := ⟨lines, ()⟩

/-- A line as it is printed: nothing in it steers the terminal. -/
def LogLine.printed (line : LogLine) : LogLine := { line with text := Text.inert line.text }

/-- The lines that a level shows, as they are printed. -/
def LogLevel.shown (level : LogLevel) (lines : List LogLine) : List LogLine :=
  (lines.filter fun line => line.level.rank ≤ level.rank).map LogLine.printed

end Refetch
