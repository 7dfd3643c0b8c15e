import StateLint.Regex.Expr
import StateLint.Regex.Flags
import StateLint.Unicode.CaseFold

/-! What a backslash introduces in a regular expression. -/
namespace StateLint.Regex

/-- One item without parts. `byte` says that a character was written as two hexadecimal digits. -/
inductive Atom where
  | literal (c : Char) (byte : Bool)
  | oneOf (set : CharSet)
  | look (condition : Look)

def isHexAnyCase (c : Char) : Bool := c.isDigit || ('a' ≤ c && c ≤ 'f') || ('A' ≤ c && c ≤ 'F')

def charOf (n : Nat) : Except Fault Char :=
  if n < 0xD800 || (0xDFFF < n && n ≤ 0x10FFFF) then .ok (Char.ofNat n) else .error .badCodePoint

def upToBrace (f : Flags) (fuel : Nat) (s : List Char) : Except Fault (List Char × List Char) :=
  match fuel, f.skip s with
  | 0, _ => .error .badEscape
  | _, [] => .error .badEscape
  | _, '}' :: s => .ok ([], s)
  | fuel + 1, c :: s =>
    match upToBrace f fuel s with
    | .ok (cs, rest) => .ok (c :: cs, rest)
    | .error e => .error e

def hexDigits (f : Flags) (n : Nat) (s : List Char) : Except Fault (List Char × List Char) :=
  match n with
  | 0 => .ok ([], s)
  | n + 1 =>
    match f.skip s with
    | [] => .error .badEscape
    | c :: s =>
      if isHexAnyCase c then
        match hexDigits f n s with
        | .ok (cs, rest) => .ok (c :: cs, rest)
        | .error e => .error e
      else .error .badEscape

def readCodePoint (f : Flags) (digits : Nat) (s : List Char) : Except Fault (Atom × List Char) :=
  match f.skip s with
  | '{' :: s => do
    let (ds, rest) ← upToBrace f (s.length + 1) s
    if ds.isEmpty || !ds.all isHexAnyCase then .error .badEscape
    else return (.literal (← charOf (CharSet.hexNumber ds)) false, f.skip rest)
  | s => do
    let (ds, rest) ← hexDigits f digits s
    return (.literal (← charOf (CharSet.hexNumber ds)) (digits = 2), f.skip rest)

def normalName (name : List Char) : String :=
  let plain (s : List Char) := (s.filter fun c =>
    c != ' ' && c != '_' && c != '-' && c.toNat ≤ 0x7F).map Char.toLower
  match name with
  | i :: s :: rest =>
    if i.toLower = 'i' && s.toLower = 's' then
      if plain rest = ['c'] then "isc" else String.ofList (plain rest)
    else String.ofList (plain name)
  | _ => String.ofList (plain name)

/-- The characters that a single name stands for: a binary property, a general category or a
script, whichever has the name first. Three short names always are categories. -/
def namedSet? (name : String) : Option CharSet :=
  (if ["cf", "sc", "lc"].contains name then none else Unicode.Property.find? name) <|>
    Unicode.Category.find? name <|> Unicode.Script.find? name

def valuedSet? (property value : String) : Option CharSet :=
  if ["gc", "generalcategory"].contains property then Unicode.Category.find? value
  else if ["sc", "script"].contains property then Unicode.Script.find? value
  else if ["scx", "scriptextensions"].contains property then Unicode.Script.findShared? value
  else none

def propertySet? (name : List Char) : Option (CharSet × Bool) :=
  let valued (sides : List Char × List Char) := valuedSet? (normalName sides.1) (normalName sides.2)
  match Text.cut? "!=".toList name with
  | some sides => (valued sides).map (·, true)
  | none =>
    match Text.cut? [':'] name with
    | some sides => (valued sides).map (·, false)
    | none =>
      match Text.cut? ['='] name with
      | some sides => (valued sides).map (·, false)
      | none => (namedSet? (normalName name)).map (·, false)

def Flags.fold (f : Flags) (s : CharSet) : CharSet :=
  if !f.ignoreCase then s
  else if f.unicode then Unicode.CaseFold.close s
  else Unicode.CaseFold.closeAscii s

/-- Applies the case mode to a set, then negates it. Without Unicode nothing can be negated. -/
def Flags.finish (f : Flags) (negated : Bool) (s : CharSet) : Except Fault CharSet :=
  let folded := f.fold s
  if !f.unicode && (negated || !folded.isAscii) then .error .brokenText
  else .ok (if negated then folded.complement else folded)

def readProperty (f : Flags) (negated : Bool) (s : List Char) : Except Fault (Atom × List Char) := do
  let (name, rest) ← match f.skip s with
    | [] => .error .badEscape
    | '{' :: s => upToBrace f (s.length + 1) s
    | '\\' :: _ => .error .badEscape
    | c :: s => .ok ([c], f.skip s)
  if !f.unicode then .error .brokenText
  else
    match propertySet? name with
    | none => .error .unknownProperty
    | some (set, differs) => return (.oneOf (← f.finish (negated != differs) set), rest)

def asciiWord : CharSet := .ofRanges [(0x30, 0x39), (0x41, 0x5A), (0x5F, 0x5F), (0x61, 0x7A)]

def readShorthand (f : Flags) (letter : Char) : Except Fault Atom :=
  let set := match letter.toLower with
    | 'd' => if f.unicode then Unicode.Property.decimalDigits else .ofRanges [(0x30, 0x39)]
    | 's' => if f.unicode then Unicode.Property.whiteSpace else .ofRanges [(9, 13), (0x20, 0x20)]
    | _ => if f.unicode then Unicode.Property.wordChars else asciiWord
  if letter.isUpper then
    if f.unicode then .ok (.oneOf set.complement) else .error .brokenText
  else .ok (.oneOf set)

def isEdgeNameChar (c : Char) : Bool := c.isAlpha || c = '-'

def edgeName (f : Flags) (fuel : Nat) (s : List Char) : List Char × List Char :=
  match fuel, s with
  | fuel + 1, c :: rest =>
    if isEdgeNameChar c then
      let (cs, rest) := edgeName f fuel (f.skip rest)
      (c :: cs, rest)
    else ([], s)
  | _, _ => ([], s)

/-- A word boundary, perhaps with its kind in braces; other braces are left to repetition. -/
def readBoundary (f : Flags) (s : List Char) : Except Fault (Atom × List Char) :=
  let plain : Atom := .look (.word .boundary f.unicode)
  match s with
  | '{' :: inner =>
    match f.skip inner with
    | [] => .error .badWordEdge
    | c :: rest =>
      if isEdgeNameChar c then
        match edgeName f (rest.length + 1) (c :: rest) with
        | (name, '}' :: rest) =>
          match String.ofList name with
          | "start" => .ok (.look (.word .start f.unicode), rest)
          | "end" => .ok (.look (.word .stop f.unicode), rest)
          | "start-half" => .ok (.look (.word .startHalf f.unicode), rest)
          | "end-half" => .ok (.look (.word .stopHalf f.unicode), rest)
          | _ => .error .badWordEdge
        | _ => .error .badWordEdge
      else .ok (plain, s)
  | _ => .ok (plain, s)

def readEscape (f : Flags) (s : List Char) : Except Fault (Atom × List Char) :=
  match s with
  | [] => .error .badEscape
  | c :: s =>
    let lit (d : Char) : Except Fault (Atom × List Char) := .ok (.literal d false, s)
    match c with
    | 'x' => readCodePoint f 2 s
    | 'u' => readCodePoint f 4 s
    | 'U' => readCodePoint f 8 s
    | 'p' => readProperty f false s
    | 'P' => readProperty f true s
    | 'a' => lit '\x07'
    | 'f' => lit '\x0c'
    | 't' => lit '\t'
    | 'n' => lit '\n'
    | 'r' => lit '\r'
    | 'v' => lit '\x0b'
    | 'A' => .ok (.look .startText, s)
    | 'z' => .ok (.look .endText, s)
    | 'b' => readBoundary f s
    | 'B' => .ok (.look (.word .noBoundary f.unicode), s)
    | '<' => .ok (.look (.word .start f.unicode), s)
    | '>' => .ok (.look (.word .stop f.unicode), s)
    | _ =>
      if "dDsSwW".toList.contains c then (readShorthand f c).map (·, s)
      else if c.isDigit then .error .backReference
      else if c.toNat ≤ 0x7F && !c.isAlpha then lit c
      else .error .badEscape

end StateLint.Regex
