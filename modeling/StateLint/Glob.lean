/-! Shell-style patterns for paths.

A pattern is a sequence of tokens. It is matched against the UTF-8 bytes of a path, so `?` takes
one byte and a class holds bytes. `*` and `?` stay within one name; `**` between slashes takes any
number of names. -/
namespace StateLint

namespace Glob

/-- The tokens of a pattern. `anyNamesFirst` is a leading `**/`, `anyNamesBetween` an inner `/**/`
and `anyNamesLast` a final `/**`. -/
inductive Token where
  | literal (c : Char)
  | oneByte
  | anyBytes
  | anyNamesFirst
  | anyNamesBetween
  | anyNamesLast
  | byteClass (negated : Bool) (ranges : List (Char × Char))
  | oneOf (branches : List (List Token))
  deriving Repr

end Glob

structure Glob where
  tokens : List Glob.Token

namespace Glob

def slash : UInt8 := 0x2F

/-- The bytes a range of characters stands for in a class: a character of several bytes puts each
of its bytes into the class, and only the bytes next to the hyphen span an interval. -/
def inRange (b : UInt8) (r : Char × Char) : Bool :=
  let low := String.utf8EncodeChar r.1
  let high := String.utf8EncodeChar r.2
  if r.1 = r.2 then low.contains b
  else low.contains b || high.contains b ||
    (match low.getLast?, high.head? with
     | some l, some h => l ≤ b && b ≤ h
     | _, _ => false)

def restsWhile (p : UInt8 → Bool) : List UInt8 → List (List UInt8)
  | [] => [[]]
  | b :: s => (b :: s) :: if p b then restsWhile p s else []

def restsAfterSlash : List UInt8 → List (List UInt8)
  | [] => []
  | b :: s => if b = slash then s :: restsAfterSlash s else restsAfterSlash s

def restLiteral (c : Char) (s : List UInt8) : List (List UInt8) :=
  let bytes := String.utf8EncodeChar c
  if bytes.isPrefixOf s then [s.drop bytes.length] else []

/-- Keeps one text of each length: two rests of one text that are equally long are equal. -/
def distinct (rests : List (List UInt8)) : List (List UInt8) :=
  rests.foldl (fun kept s => if kept.any (fun t => t.length = s.length) then kept else kept ++ [s]) []

mutual

def Token.isVoid (t : Token) : Bool :=
  match t with
  | .oneOf branches => allVoid branches
  | _ => false

def listVoid (ts : List Token) : Bool :=
  match ts with
  | [] => true
  | t :: ts => Token.isVoid t && listVoid ts

def allVoid (branches : List (List Token)) : Bool :=
  match branches with
  | [] => true
  | ts :: bs => listVoid ts && allVoid bs

end

mutual

def Token.rests (t : Token) (s : List UInt8) : List (List UInt8) :=
  match t with
  | .literal c => restLiteral c s
  | .oneByte => match s with
    | [] => []
    | b :: r => if b = slash then [] else [r]
  | .anyBytes => restsWhile (· != slash) s
  | .anyNamesFirst => s :: restsAfterSlash s
  | .anyNamesBetween => match s with
    | [] => []
    | b :: r => if b = slash then r :: restsAfterSlash r else []
  | .anyNamesLast => match s with
    | [] => []
    | b :: r => if b = slash then restsWhile (fun _ => true) r else []
  | .byteClass negated ranges => match s with
    | [] => []
    | b :: r => if ranges.any (inRange b) != negated then [r] else []
  | .oneOf branches => if allVoid branches then [s] else branchRests branches s

def branchRests (branches : List (List Token)) (s : List UInt8) : List (List UInt8) :=
  match branches with
  | [] => []
  | ts :: bs => if listVoid ts then branchRests bs s else restsList ts [s] ++ branchRests bs s

def restsList (ts : List Token) (ss : List (List UInt8)) : List (List UInt8) :=
  match ts with
  | [] => ss
  | t :: ts => restsList ts (distinct (ss.flatMap (Token.rests t)))

end

def isLiteral : Token → Bool
  | .literal _ => true
  | _ => false

def bytesOf (s : String) : List UInt8 := s.toList.flatMap String.utf8EncodeChar

/-- A path whose last component is `..` has no name of its own: of the patterns that end in a dot
it is matched only by those that spell the path, or its last two components or more. -/
def reachesNameless (tokens : List Token) : Bool :=
  match tokens.getLast? with
  | some (.literal '.') =>
    match tokens with
    | .anyNamesFirst :: ts => ts.all isLiteral && ts.any fun
      | .literal c => c = '/'
      | _ => false
    | ts => ts.all isLiteral
  | _ => true

def endsNameless (path : List UInt8) : Bool :=
  path = [0x2E, 0x2E] || [0x2E, 0x2E, slash].isPrefixOf path.reverse

def accepts (g : Glob) (path : String) : Bool :=
  let bytes := bytesOf path
  match g.tokens with
  | [.anyNamesFirst] => true
  | tokens => (restsList tokens [bytes]).contains [] && (!endsNameless bytes || reachesNameless tokens)

end Glob

end StateLint
