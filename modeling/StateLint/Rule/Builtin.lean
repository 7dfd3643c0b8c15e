import StateLint.Rule
import StateLint.Text.Blank

/-! The rules that come with the linter. -/
namespace StateLint.Builtin

def trailingBlanksName : String := "trailing-whitespace"

def tabsName : String := "no-tabs"

def longLinesName : String := "line-too-long"

/-- Carriage returns do not count. -/
def endsBlank (line : List Char) : Bool :=
  let s := line.filter (· != '\r')
  Text.trimEnd s != s

/-- A line of few bytes has few characters, so most lines are not counted. -/
def isLong (limit : Nat) (line : String) : Bool :=
  if line.utf8ByteSize ≤ limit then false else limit < line.length

def trailingBlanks : Rule where
  id := "201"
  summary := "Trailing whitespace"
  description := "There should not be any trailing whitespace"
  severity := .info
  tags := ["formatting"]
  versionAdded := some "v0.0.1"
  matchLine _ line := .ofBool (endsBlank line.toList)

def tabs : Rule where
  id := "203"
  summary := "Most files should not contain tabs"
  description := "Tabs can cause unexpected display issues, use spaces"
  severity := .low
  tags := ["formatting"]
  versionAdded := some "v0.0.1"
  matchLine _ line := .ofBool (line.toList.contains '\t')

def maxLineLength : Nat := 160

def longLines (limit : Nat) : Rule where
  id := "204"
  summary := "Lines should be no longer that " ++ toString limit ++ " chars"
  description := "Long lines make code harder to read and code review more difficult"
  severity := .veryLow
  tags := ["formatting"]
  versionAdded := some "v0.0.1"
  matchLine _ line := .ofBool (isLong limit line)

def rules : List Rule := [trailingBlanks, tabs, longLines maxLineLength]

end StateLint.Builtin
