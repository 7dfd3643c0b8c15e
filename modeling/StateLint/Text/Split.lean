/-! Cutting a text at a character or at a marker. -/
namespace StateLint.Text

def split (sep : Char) : List Char → List (List Char)
  | [] => [[]]
  | c :: s =>
    if c = sep then [] :: split sep s
    else
      match split sep s with
      | [] => [[c]]
      | p :: ps => (c :: p) :: ps

def cut? (marker : List Char) : List Char → Option (List Char × List Char)
  | [] => if marker.isEmpty then some ([], []) else none
  | c :: s =>
    if marker.isPrefixOf (c :: s) then some ([], (c :: s).drop marker.length)
    else (cut? marker s).map fun (before, after) => (c :: before, after)

/-- The lines of a block: a newline ends a line, a carriage return right before it belongs to it,
and nothing stands after the last newline unless it is a line without an end. -/
def blockLines : List Char → List (List Char)
  | [] => []
  | '\n' :: s => [] :: blockLines s
  | '\r' :: '\n' :: s => [] :: blockLines s
  | [c] => [[c]]
  | c :: d :: s =>
    if d = '\n' then [c] :: blockLines s
    else
      match blockLines (d :: s) with
      | [] => [[c]]
      | l :: ls => (c :: l) :: ls

end StateLint.Text

namespace StateLint

/-- The segments of a text between its newlines, in order. Line `n` of a text is the `n`-th of
them, counted from one. -/
def lines (text : String) : List String :=
  (Text.split '\n' text.toList).map String.ofList

def commaPieces (text : String) : List String :=
  (Text.split ',' text.toList).map String.ofList

end StateLint
