import StateLint.Jinja
import StateLint.Regex
import StateLint.Rule

/-! Rules that search for a pattern. -/
namespace StateLint

inductive Scope where
  | line
  | text
  deriving DecidableEq, Repr

structure PatternRule where
  id : String
  summary : String
  description : String
  severity : Severity
  tags : List String
  versionAdded : Option String
  regex : Regex
  scope : Scope
  message : Option String
  hidesExpressions : Bool

namespace PatternRule

def matchLine (p : PatternRule) (line : String) : LineVerdict :=
  match p.scope with
  | .text => .clean
  | .line =>
    if p.regex.isMatch (if p.hidesExpressions then Jinja.hideExpressions line else line) then
      match p.message with
      | some message => .flaggedWith message
      | none => .flagged
    else .clean

/-- The number of the line that holds an offset, and that line. -/
def lineAt (text : List Char) (offset : Nat) : Nat × List Char :=
  let before := text.take offset
  (before.count '\n' + 1,
    (before.reverse.takeWhile (· != '\n')).reverse ++ (text.drop offset).takeWhile (· != '\n'))

/-- Each match is told at the line where it begins. -/
def matchText (p : PatternRule) (text : String) : List TextMatch :=
  match p.scope with
  | .line => []
  | .text => (p.regex.spans text).map fun span =>
    let (n, line) := lineAt text.toList span.start
    ⟨n, String.ofList line, p.message⟩

def toRule (p : PatternRule) : Rule where
  id := p.id
  summary := p.summary
  description := p.description
  severity := p.severity
  tags := p.tags
  versionAdded := p.versionAdded
  matchLine _ line := p.matchLine line
  matchText _ text := p.matchText text

end PatternRule

end StateLint
