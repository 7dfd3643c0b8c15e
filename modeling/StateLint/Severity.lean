import StateLint.Text.Blank

/-! How serious a finding is. The constructors stand in ascending order. -/
namespace StateLint

inductive Severity where
  | info
  | veryLow
  | low
  | medium
  | high
  | veryHigh
  deriving DecidableEq, Repr

namespace Severity

def all : List Severity := [info, veryLow, low, medium, high, veryHigh]

def rank : Severity → Nat
  | info => 0
  | veryLow => 1
  | low => 2
  | medium => 3
  | high => 4
  | veryHigh => 5

def name : Severity → String
  | info => "INFO"
  | veryLow => "VERY_LOW"
  | low => "LOW"
  | medium => "MEDIUM"
  | high => "HIGH"
  | veryHigh => "VERY_HIGH"

def ofName? (text : String) : Option Severity := all.find? fun s => s.name = text

/-- Reads a severity as people write it: blanks around it, lower case letters and hyphens in
place of underscores are accepted. -/
def parse? (text : String) : Option Severity :=
  ofName? (String.ofList ((Text.trim text.toList).map fun c => if c = '-' then '_' else c.toUpper))

def compare (a b : Severity) : Ordering := Ord.compare a.rank b.rank

def unknownMessage (text : String) : String :=
  "unknown severity `" ++ text ++ "`, expected one of: INFO, VERY_LOW, LOW, MEDIUM, HIGH, VERY_HIGH"

theorem ofName?_name (s : Severity) : ofName? s.name = some s := by
  cases s <;> rfl

end Severity

end StateLint
