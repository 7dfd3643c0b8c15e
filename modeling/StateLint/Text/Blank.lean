/-! White space, and the trimming of it.

A character is blank when it has the Unicode property `White_Space`. The list is closed: the
zero-width space, the byte order mark and the information separators are not in it. -/
namespace StateLint.Text

/-- The characters with the property `White_Space`. -/
def isBlank (c : Char) : Bool :=
  let n := c.toNat
  (9 ≤ n && n ≤ 13) || n == 0x20 || n == 0x85 || n == 0xA0 || n == 0x1680 ||
    (0x2000 ≤ n && n ≤ 0x200A) || n == 0x2028 || n == 0x2029 || n == 0x202F || n == 0x205F ||
    n == 0x3000

def trimStart (s : List Char) : List Char := s.dropWhile isBlank

def trimEnd (s : List Char) : List Char := (s.reverse.dropWhile isBlank).reverse

def trim (s : List Char) : List Char := trimEnd (trimStart s)

/-- The maximal runs of characters that are not blank, in order. -/
def words : List Char → List (List Char)
  | [] => []
  | c :: s =>
    if isBlank c then words s
    else
      match s with
      | [] => [[c]]
      | d :: _ =>
        if isBlank d then [c] :: words s
        else
          match words s with
          | [] => [[c]]
          | w :: ws => (c :: w) :: ws

end StateLint.Text

namespace StateLint

def trimmed (s : String) : String := String.ofList (Text.trim s.toList)

def trimmedEnd (s : String) : String := String.ofList (Text.trimEnd s.toList)

end StateLint
