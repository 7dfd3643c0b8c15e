/-! Lines that tell what the linter does while it runs. -/
namespace StateLint

inductive LogLevel where
  | error
  | warn
  | info
  | debug
  deriving DecidableEq, Repr

namespace LogLevel

def name : LogLevel → String
  | error => "ERROR"
  | warn => "WARN"
  | info => "INFO"
  | debug => "DEBUG"

def detail : LogLevel → Nat
  | error => 0
  | warn => 1
  | info => 2
  | debug => 3

end LogLevel

structure LogLine where
  level : LogLevel
  message : String
  deriving DecidableEq, Repr

namespace LogLine

def warn (message : String) : LogLine := ⟨.warn, message⟩

def info (message : String) : LogLine := ⟨.info, message⟩

def debug (message : String) : LogLine := ⟨.debug, message⟩

def display (l : LogLine) : String := l.level.name ++ " " ++ l.message

/-- The lines that a threshold lets through; without one, none. -/
def upTo (threshold : Option LogLevel) (log : List LogLine) : List LogLine :=
  match threshold with
  | some t => log.filter fun l => l.level.detail ≤ t.detail
  | none => []

end LogLine

end StateLint
