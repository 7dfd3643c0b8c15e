import StateLint.Regex.Parser
import StateLint.Regex.Search

/-! Regular expressions over Unicode text.

Matches are found from left to right; of those that begin at one place, the one the expression
prefers. There is no looking around and no reference back, so a search is linear in the text. -/
namespace StateLint

structure Regex where
  source : String
  program : Regex.Program

namespace Regex

def compile (source : String) : Except Fault Regex :=
  (parse source.toList).map fun e => ⟨source, .ofExpr e⟩

def isMatch (r : Regex) (text : String) : Bool := r.program.matchesIn text.toList

/-- All matches in a text, as offsets in characters. -/
def spans (r : Regex) (text : String) : List Span := r.program.spans text.toList

end Regex

end StateLint
