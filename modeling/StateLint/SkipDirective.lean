import StateLint.Text.Blank
import StateLint.Text.Split

/-! Inline skip directives: a line opts out of named rules by a marker followed by their ids. -/
namespace StateLint.SkipDirective

def marker : List Char := "# noqa:".toList

/-- The words between the first marker and the next one, or the end of the line. -/
def parse? (line : List Char) : Option (List (List Char)) :=
  (Text.cut? marker line).map fun (_, rest) =>
    match Text.cut? marker rest with
    | some (listed, _) => Text.words listed
    | none => Text.words rest

def skippedIds (line : String) : List String :=
  ((parse? line.toList).getD []).map String.ofList

end StateLint.SkipDirective
