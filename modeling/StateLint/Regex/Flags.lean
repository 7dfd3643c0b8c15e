import StateLint.Regex.Fault
import StateLint.Text.Blank

/-! The modes of a regular expression. -/
namespace StateLint.Regex

structure Flags where
  ignoreCase : Bool
  multiLine : Bool
  dotAll : Bool
  swapGreed : Bool
  unicode : Bool
  anyLineEnd : Bool
  verbose : Bool
  deriving DecidableEq, Repr

namespace Flags

def initial : Flags := ⟨false, false, false, false, true, false, false⟩

def set? (f : Flags) (letter : Char) (value : Bool) : Option Flags :=
  match letter with
  | 'i' => some { f with ignoreCase := value }
  | 'm' => some { f with multiLine := value }
  | 's' => some { f with dotAll := value }
  | 'U' => some { f with swapGreed := value }
  | 'u' => some { f with unicode := value }
  | 'R' => some { f with anyLineEnd := value }
  | 'x' => some { f with verbose := value }
  | _ => none

/-- Reads flag letters up to a colon or a closing parenthesis. A hyphen, at most one, turns the
letters after it off; no letter may come twice. Gives the new modes, whether nothing was written,
and the text from the closing character on. -/
def read (f : Flags) (seen : List Char) : List Char → Except Fault (Flags × Bool × List Char)
  | [] => .error .badFlags
  | c :: s =>
    if c = ':' || c = ')' then
      if seen.head? = some '-' then .error .badFlags else .ok (f, seen.isEmpty, c :: s)
    else if seen.contains c then .error .badFlags
    else if c = '-' then read f ('-' :: seen) s
    else
      match f.set? c (!seen.contains '-') with
      | some f => read f (c :: seen) s
      | none => .error .badFlags

/-- Drops blanks and comments; `inside` says that a comment has begun. -/
def dropRemarks (inside : Bool) : List Char → List Char
  | [] => []
  | c :: s =>
    if inside then dropRemarks (c != '\n') s
    else if Text.isBlank c then dropRemarks false s
    else if c = '#' then dropRemarks true s
    else c :: s

def skip (f : Flags) (s : List Char) : List Char := if f.verbose then dropRemarks false s else s

end Flags

end StateLint.Regex
