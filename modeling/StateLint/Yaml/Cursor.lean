/-! A place in a YAML text. -/
namespace StateLint.Yaml

/-- What is left of a text, and where that begins. The offset counts bytes, the column characters. -/
structure Cursor where
  rest : List Char
  offset : Nat
  line : Nat
  column : Nat

def isBreak (c : Char) : Bool :=
  c = '\n' || c = '\r' || c = '\u0085' || c = '\u2028' || c = '\u2029'

def isSpace (c : Char) : Bool := c = ' ' || c = '\t'

def isNameChar (c : Char) : Bool := c.isAlphanum || c = '_' || c = '-'

def endsWord : Option Char → Bool
  | none => true
  | some c => isSpace c || isBreak c

def endsLine : Option Char → Bool
  | none => true
  | some c => isBreak c

/-- A line end as it is kept in a value: the separators stay, all others become a line feed. -/
def keptBreak (c : Char) : Char := if c = '\u2028' || c = '\u2029' then c else '\n'

def byteSize (text : List Char) : Nat := text.foldl (fun n c => n + c.utf8Size) 0

namespace Cursor

def start (text : List Char) : Cursor := ⟨text, 0, 0, 0⟩

def peek (c : Cursor) : Option Char := c.rest.head?

def ahead (c : Cursor) (n : Nat) : Option Char := c.rest[n]?

def atSpace (c : Cursor) : Bool := c.peek.any isSpace

def atBreak (c : Cursor) : Bool := c.peek.any isBreak

def skipMany (c : Cursor) (n : Nat) : Cursor :=
  ⟨c.rest.drop n, c.offset + byteSize (c.rest.take n), c.line, c.column + n⟩

def skip (c : Cursor) : Cursor := c.skipMany 1

def skipBreak (c : Cursor) : Cursor :=
  match c.rest with
  | '\r' :: '\n' :: rest => ⟨rest, c.offset + 2, c.line + 1, 0⟩
  | d :: rest => ⟨rest, c.offset + d.utf8Size, c.line + 1, 0⟩
  | [] => c

/-- The longest run of characters that satisfy `p`, which holds for no line end. -/
def takeRun (c : Cursor) (p : Char → Bool) : List Char × Cursor :=
  let run := c.rest.takeWhile p
  (run, c.skipMany run.length)

def skipRun (c : Cursor) (p : Char → Bool) : Cursor := (c.takeRun p).2

def skipComment (c : Cursor) : Cursor :=
  if c.peek = some '#' then c.skipRun (!isBreak ·) else c

def atMarker (c : Cursor) (mark : Char) : Bool :=
  c.column = 0 && c.ahead 0 = some mark && c.ahead 1 = some mark && c.ahead 2 = some mark &&
    endsWord (c.ahead 3)

def atDocumentMarker (c : Cursor) : Bool := c.atMarker '-' || c.atMarker '.'

end Cursor

end StateLint.Yaml
