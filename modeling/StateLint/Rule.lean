import StateLint.Severity
import StateLint.StateFile

/-! Rules: what a rule is called, and what it looks for.

A rule may look at single lines, at the text as a whole, at both or at neither, and it is told which
file the text is from. -/
namespace StateLint

/-- What a rule says about a line. If it has no message, its summary is told. -/
inductive LineVerdict where
  | clean
  | flagged
  | flaggedWith (message : String)
  deriving DecidableEq, Repr

namespace LineVerdict

def ofBool (flagged : Bool) : LineVerdict := if flagged then .flagged else .clean

def isFlagged : LineVerdict → Bool
  | clean => false
  | _ => true

end LineVerdict

/-- A place at which a rule fires in a text as a whole. -/
structure TextMatch where
  lineNumber : Nat
  line : String
  message : Option String
  deriving DecidableEq, Repr

structure Rule where
  id : String
  summary : String
  description : String := ""
  severity : Severity := .medium
  tags : List String := []
  versionAdded : Option String := none
  matchLine : StateFile → String → LineVerdict := fun _ _ => .clean
  matchText : StateFile → String → List TextMatch := fun _ _ => []

namespace Rule

def inert (id summary : String) : Rule := { id, summary }

def listing (r : Rule) : String := r.id ++ ": " ++ r.summary ++ "\n " ++ r.description

end Rule

end StateLint
