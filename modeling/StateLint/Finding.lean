import StateLint.Keys
import StateLint.Path
import StateLint.Rule
import StateLint.SkipDirective
import StateLint.Text.Quoted

/-! Findings: a rule that fired at a place.

A rule is tried on every line of a text that is no comment and does not name the rule in a skip
directive, and then on the text as a whole. Line numbers count from one. -/
namespace StateLint

structure Finding where
  lineNumber : Nat
  line : String
  file : Path
  rule : Rule
  message : String

namespace Finding

def compare (a b : Finding) : Ordering :=
  (Ord.compare a.file.text b.file.text).then
    ((Ord.compare a.lineNumber b.lineNumber).then (Ord.compare a.rule.id b.rule.id))

/-- Findings that compare equal keep their order. -/
def sort (findings : List Finding) : List Finding :=
  findings.mergeSort fun a b => (compare a b).isLE

def display (f : Finding) : String :=
  "[" ++ f.rule.id ++ "] (" ++ f.message ++ ") matched " ++ f.file.text ++ ":" ++
    toString f.lineNumber ++ " " ++ f.line

def inspect (f : Finding) : String :=
  "Match \x7b line_number: " ++ toString f.lineNumber ++ ", line: " ++ Text.quoted f.line ++
    ", filename: " ++ Text.quoted f.file.text ++ ", rule: " ++ Text.quoted f.rule.id ++
    ", message: " ++ Text.quoted f.message ++ " \x7d"

end Finding

def isComment (line : String) : Bool := (Text.trimStart line.toList).head? = some '#'

namespace Rule

/-- The ids and tags that filters know the rule by. -/
def keys (r : Rule) : List String := Keys.insert r.id (Keys.ofList r.tags)

def finding (r : Rule) (file : Path) (lineNumber : Nat) (line : String) (message : Option String) :
    Finding :=
  ⟨lineNumber, line, file, r, message.getD r.summary⟩

def lineFinding? (r : Rule) (file : StateFile) (lineNumber : Nat) (line : String) : Option Finding :=
  if isComment line || (SkipDirective.skippedIds line).contains r.id then none
  else
    match r.matchLine file line with
    | .clean => none
    | .flagged => some (r.finding file.path lineNumber line none)
    | .flaggedWith message => some (r.finding file.path lineNumber line (some message))

def lineFindings (r : Rule) (file : StateFile) (text : String) : List Finding :=
  ((lines text).zipIdx 1).filterMap fun (line, n) => r.lineFinding? file n line

def textFindings (r : Rule) (file : StateFile) (text : String) : List Finding :=
  (r.matchText file text).map fun m => r.finding file.path m.lineNumber m.line m.message

def findings (r : Rule) (file : StateFile) (text : String) : List Finding :=
  r.lineFindings file text ++ r.textFindings file text

end Rule

end StateLint
