/-! Template expressions in a line of a state file.

An expression is two opening braces, a run of characters other than a closing brace, and two
closing braces. `hideExpressions` puts a placeholder in the place of each of them, leftmost
first, and never looks into what it has put there. -/
namespace StateLint.Jinja

def placeholder : List Char := "JINJA_VAR".toList

/-- What follows the expression at the start of a text. -/
def afterExpression? : List Char → Option (List Char)
  | '{' :: '{' :: s =>
    match s.dropWhile (· != '}') with
    | '}' :: '}' :: rest => some rest
    | _ => none
  | _ => none

theorem length_afterExpression? {s rest : List Char} (h : afterExpression? s = some rest) :
    rest.length < s.length := by
  unfold afterExpression? at h
  split at h
  · rename_i t
    have ht := (List.dropWhile_sublist (l := t) (· != '}')).length_le
    split at h
    · rename_i r hr
      cases h
      rw [hr] at ht
      simp only [List.length_cons] at ht ⊢
      omega
    · cases h
  · cases h

def hide (s : List Char) : List Char :=
  match s with
  | [] => []
  | c :: t =>
    match _h : afterExpression? (c :: t) with
    | some rest => placeholder ++ hide rest
    | none => c :: hide t
termination_by s.length
decreasing_by
  · exact length_afterExpression? _h
  · simp

def hideExpressions (text : String) : String := String.ofList (hide text.toList)

end StateLint.Jinja
