import StateLint.Glob

/-! Reading a pattern.

Braces hold choices divided by commas and may be nested; a backslash takes the next character as
it is; `**` crosses slashes only where it stands alone between them. A class that is never closed
is a plain bracket, and after one of them no bracket opens a class. -/
namespace StateLint.Glob

inductive ParseError where
  | unopenedChoice
  | unclosedChoice
  | reversedRange
  | danglingEscape
  deriving DecidableEq, Repr

/-- What is read so far: the tokens of the current branch, last first, and for every open choice
its finished branches, last first, with the tokens that stand before it. -/
structure Draft where
  tokens : List Token
  opened : List (List Token × List (List Token))
  classes : Bool

namespace Draft

def push (d : Draft) (t : Token) : Draft := { d with tokens := t :: d.tokens }

def openChoice (d : Draft) : Draft :=
  { d with tokens := [], opened := (d.tokens, []) :: d.opened }

def comma (d : Draft) : Draft :=
  match d.opened with
  | [] => d.push (.literal ',')
  | (before, done) :: outer => { d with tokens := [], opened := (before, d.tokens.reverse :: done) :: outer }

def closeChoice (d : Draft) : Except ParseError Draft :=
  match d.opened with
  | [] => .error .unopenedChoice
  | (before, done) :: outer =>
    .ok { d with tokens := .oneOf (d.tokens.reverse :: done).reverse :: before, opened := outer }

def twoStars (d : Draft) : Draft := (d.push .anyBytes).push .anyBytes

/-- Puts a `**` in the place of the slash before it; beside another `**` it adds nothing. -/
def crossNames (d : Draft) (t : Token) : Draft :=
  match d.tokens with
  | .anyNamesFirst :: _ => d
  | .anyNamesLast :: _ => d
  | _ :: ts => { d with tokens := t :: ts }
  | [] => d.push t

end Draft

inductive ClassScan where
  | closed (ranges : List (Char × Char)) (rest : List Char)
  | unclosed
  | reversed

/-- Reads the members of a class up to its closing bracket. `ranges` holds those read so far, last
first; `first` says that none was read, `dash` that the last of them is followed by a hyphen. -/
def scanClass (first dash : Bool) (ranges : List (Char × Char)) : List Char → ClassScan
  | [] => .unclosed
  | c :: s =>
    if c = ']' && !first then
      .closed (if dash then ('-', '-') :: ranges else ranges).reverse s
    else if c = '-' && !first && !dash then scanClass false true ranges s
    else
      match dash, ranges with
      | true, (low, _) :: more =>
        if c < low then .reversed else scanClass false false ((low, c) :: more) s
      | _, _ => scanClass false false ((c, c) :: ranges) s

def parseFrom (fuel : Nat) (before : Option Char) (d : Draft) (s : List Char) :
    Except ParseError Draft :=
  match fuel, s with
  | 0, _ => .ok d
  | _, [] => .ok d
  | fuel + 1, '?' :: s => parseFrom fuel (some '?') (d.push .oneByte) s
  | fuel + 1, '*' :: '*' :: s =>
    if d.tokens.isEmpty then
      match s with
      | [] => .ok (d.push .anyNamesFirst)
      | '/' :: r => parseFrom fuel (some '/') (d.push .anyNamesFirst) r
      | _ => parseFrom fuel (some '*') d.twoStars s
    else if before != some '/' &&
        (d.opened.isEmpty || (before != some ',' && before != some '{')) then
      parseFrom fuel (some '*') d.twoStars s
    else
      match s with
      | [] => .ok (d.crossNames .anyNamesLast)
      | '/' :: r => parseFrom fuel (some '/') (d.crossNames .anyNamesBetween) r
      | c :: _ =>
        if !d.opened.isEmpty && (c = ',' || c = '}') then
          parseFrom fuel (some '*') (d.crossNames .anyNamesLast) s
        else parseFrom fuel (some '*') d.twoStars s
  | fuel + 1, '*' :: s => parseFrom fuel (some '*') (d.push .anyBytes) s
  | fuel + 1, '[' :: s =>
    if d.classes then
      let (negated, members) := match s with
        | '!' :: r => (true, r)
        | '^' :: r => (true, r)
        | _ => (false, s)
      match scanClass true false [] members with
      | .closed ranges rest => parseFrom fuel (some ']') (d.push (.byteClass negated ranges)) rest
      | .unclosed => parseFrom fuel (some '[') { d.push (.literal '[') with classes := false } s
      | .reversed => .error .reversedRange
    else parseFrom fuel (some '[') (d.push (.literal '[')) s
  | fuel + 1, '{' :: s => parseFrom fuel (some '{') d.openChoice s
  | fuel + 1, '}' :: s =>
    match d.closeChoice with
    | .ok d => parseFrom fuel (some '}') d s
    | .error e => .error e
  | fuel + 1, ',' :: s => parseFrom fuel (some ',') d.comma s
  | _ + 1, ['\\'] => .error .danglingEscape
  | fuel + 1, '\\' :: c :: s => parseFrom fuel (some c) (d.push (.literal c)) s
  | fuel + 1, c :: s => parseFrom fuel (some c) (d.push (.literal c)) s

def parse (s : List Char) : Except ParseError Glob :=
  match parseFrom s.length none ⟨[], [], true⟩ s with
  | .error e => .error e
  | .ok d => if d.opened.isEmpty then .ok ⟨d.tokens.reverse⟩ else .error .unclosedChoice

end StateLint.Glob
