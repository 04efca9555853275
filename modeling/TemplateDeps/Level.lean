import TemplateDeps.Text.Blank
import TemplateDeps.Text.Lowercase

/-!
# Levels of log lines

Each log line has a level, from errors, which are always of interest, to traces, which are hardly ever.
A reader chooses a level and sees the lines up to it. A level is written in any case and with blanks
around it; `warning` is another word for `warn`.
-/

namespace TemplateDeps

/-- How much a log line matters. -/
inductive Level
  | error
  | warn
  | info
  | debug
  | trace
  deriving DecidableEq, Repr

namespace Level

/-- The word for a level. -/
def word : Level → String
  | error => "error"
  | warn => "warn"
  | info => "info"
  | debug => "debug"
  | trace => "trace"

/-- The word for a level at the head of a log line. -/
def tag : Level → String
  | error => "ERROR"
  | warn => "WARN"
  | info => "INFO"
  | debug => "DEBUG"
  | trace => "TRACE"

/-- The place of a level, the most important first. -/
def rank : Level → Nat
  | error => 0
  | warn => 1
  | info => 2
  | debug => 3
  | trace => 4

/-- Whether a reader who chose level `chosen` sees lines of level `l`. -/
def admits (chosen l : Level) : Bool :=
  l.rank ≤ chosen.rank

/-- Read a level. -/
def parse? (raw : String) : Option Level :=
  match Text.lowercase (Text.trim raw) with
  | "error" => some error
  | "warn" => some warn
  | "warning" => some warn
  | "info" => some info
  | "debug" => some debug
  | "trace" => some trace
  | _ => none

end Level

end TemplateDeps
