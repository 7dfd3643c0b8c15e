import StateLint.Finding
import StateLint.Json

/-! Reports: the findings of a run, and how they are written. -/
namespace StateLint

structure Report where
  findings : List Finding

namespace Report

def empty : Report := ⟨[]⟩

def extend (r : Report) (findings : List Finding) : Report := ⟨r.findings ++ findings⟩

def sort (r : Report) : Report := ⟨Finding.sort r.findings⟩

def isEmpty (r : Report) : Bool := r.findings.isEmpty

def size (r : Report) : Nat := r.findings.length

inductive Format where
  | plain
  | severity
  | json
  deriving DecidableEq, Repr

inductive Color where
  | red
  | lightRed
  | yellow
  | blue
  | magenta
  | cyan
  deriving DecidableEq, Repr

def Color.start : Color → String
  | red => "\x1b[0;31m"
  | lightRed => "\x1b[1;31m"
  | yellow => "\x1b[0;33m"
  | blue => "\x1b[0;34m"
  | magenta => "\x1b[0;35m"
  | cyan => "\x1b[0;36m"

def Color.reset : String := "\x1b[0m"

def paint (colored : Bool) (color : Color) (text : String) : String :=
  if colored then color.start ++ text ++ Color.reset else text

def renderFinding (withSeverity colored : Bool) (f : Finding) : String :=
  paint colored .red ("[" ++ f.rule.id ++ "]") ++
    (if withSeverity then paint colored .yellow ("[" ++ f.rule.severity.name ++ "]") else "") ++
    " " ++ paint colored .lightRed f.message ++ "\n" ++
    paint colored .blue f.file.text ++ ":" ++ paint colored .cyan (toString f.lineNumber) ++ "\n" ++
    paint colored .magenta f.line ++ "\n\n"

def findingJson (f : Finding) : Json :=
  .object [
    ("id", .string f.rule.id),
    ("message", .string f.message),
    ("filename", .string f.file.text),
    ("linenumber", .number f.lineNumber),
    ("line", .string f.line),
    ("severity", .string f.rule.severity.name)]

/-- The text of a report. JSON is never coloured. -/
def render (r : Report) (format : Format) (colored : Bool) : String :=
  match format with
  | .json => (Json.array (r.findings.map findingJson)).render ++ "\n"
  | .plain => String.join (r.findings.map (renderFinding false colored))
  | .severity => String.join (r.findings.map (renderFinding true colored))

end Report

end StateLint
