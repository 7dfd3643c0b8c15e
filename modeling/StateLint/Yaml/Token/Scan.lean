import StateLint.Yaml.ScalarText
import StateLint.Yaml.Token

/-! Cutting a YAML text into tokens.

A key is known to be one only when its colon is reached. So the place of each word that may turn
out to be a key is remembered, and the token for the key is put in there later. -/
namespace StateLint.Yaml

structure KeyPlace where
  required : Bool
  position : Nat
  line : Nat
  column : Nat
  offset : Nat

/-- Whether a key at this place can no longer get its colon: the line has ended, or more than 1024
bytes went by. -/
def KeyPlace.isPast (k : KeyPlace) (c : Cursor) : Bool :=
  k.line < c.line || k.offset + 1024 < c.offset

structure Scan where
  cursor : Cursor
  tokens : Array Token
  indent : Int
  outer : List Int
  keyAllowed : Bool
  key? : Option KeyPlace
  /-- The possible keys outside of each open bracket. -/
  outerKeys : List (Option KeyPlace)
  anchors : List (String × Nat)

namespace Scan

def start (text : List Char) : Scan := ⟨.start text, #[], -1, [], true, none, [], []⟩

def inFlow (s : Scan) : Bool := !s.outerKeys.isEmpty

def emit (s : Scan) (t : Token) (c : Cursor) : Scan :=
  { s with tokens := s.tokens.push t, cursor := c }

def allowKey (s : Scan) (allowed : Bool) : Scan := { s with keyAllowed := allowed }

def unroll (s : Scan) (column : Int) : Scan :=
  if s.inFlow then s
  else
    let columns := s.indent :: s.outer
    let ended := (columns.takeWhile (column < ·)).length
    match columns.drop ended with
    | indent :: outer =>
      { s with tokens := s.tokens ++ Array.replicate ended Token.blockEnd, indent, outer }
    | [] => s

def roll (s : Scan) (column position : Nat) (t : Token) : Scan :=
  if s.inFlow || (column : Int) ≤ s.indent then s
  else { s with
    tokens := s.tokens.insertIdxIfInBounds position t
    indent := column
    outer := s.indent :: s.outer }

def rollHere? (s : Scan) (t : Token) : Option Scan :=
  if s.inFlow then some s
  else if s.keyAllowed then some (s.roll s.cursor.column s.tokens.size t)
  else none

def dropKey? (s : Scan) : Option Scan :=
  if s.key?.any (·.required) then none else some { s with key? := none }

def noteKey? (s : Scan) : Option Scan :=
  if !s.keyAllowed then some s
  else do
    let c := s.cursor
    let required := !s.inFlow && s.indent = c.column
    let s ← s.dropKey?
    return { s with key? := some ⟨required, s.tokens.size, c.line, c.column, c.offset⟩ }

def expireKeys? (s : Scan) : Option Scan := do
  let keep? (k : Option KeyPlace) : Option (Option KeyPlace) :=
    match k with
    | some k => if !k.isPast s.cursor then some (some k) else if k.required then none else some none
    | none => some none
  return { s with key? := (← keep? s.key?), outerKeys := (← s.outerKeys.mapM keep?) }

/-- Goes over blanks, comments and line ends; says also whether a key may follow. A tab is a blank
only where no key may begin. -/
def gap (inFlow : Bool) (fuel : Nat) (keyAllowed : Bool) (c : Cursor) : Cursor × Bool :=
  match fuel with
  | 0 => (c, keyAllowed)
  | fuel + 1 =>
    let c := if c.column = 0 && c.peek = some '\uFEFF' then c.skip else c
    let c := (c.skipRun fun d => d = ' ' || (d = '\t' && (inFlow || !keyAllowed))).skipComment
    if c.atBreak then gap inFlow fuel (keyAllowed || !inFlow) c.skipBreak else (c, keyAllowed)

def advance? (s : Scan) : Option Scan := do
  let (c, allowed) := gap s.inFlow (s.cursor.rest.length + 1) s.keyAllowed s.cursor
  let s ← { s with cursor := c, keyAllowed := allowed }.expireKeys?
  return s.unroll s.cursor.column

/-! Directives and tags. -/

def number? (c : Cursor) : Option (Nat × Cursor) :=
  let (digits, c) := c.takeRun Char.isDigit
  if digits.isEmpty || 9 < digits.length then none else some (numberOf 10 digits, c)

/-- A tag handle: `!`, or a name between two of them. The second one is optional unless `closed`. -/
def handle? (closed : Bool) (c : Cursor) : Option (List Char × Cursor) :=
  if c.peek != some '!' then none
  else
    let (name, c) := c.skip.takeRun isNameChar
    if c.peek = some '!' then some ('!' :: name ++ ['!'], c.skip)
    else if closed && !name.isEmpty then none
    else some ('!' :: name, c)

def escapedBytes? (count : Nat) (c : Cursor) : Option (List UInt8 × Cursor) :=
  match count with
  | 0 => some ([], c)
  | count + 1 =>
    match c.rest with
    | '%' :: a :: b :: _ =>
      if isDigitOf 16 a && isDigitOf 16 b then
        (escapedBytes? count (c.skipMany 3)).map fun (bs, c) =>
          ((numberOf 16 [a, b]).toUInt8 :: bs, c)
      else none
    | _ => none

def escapedChar? (c : Cursor) : Option (Char × Cursor) := do
  let (first, _) ← escapedBytes? 1 c
  let width := match first with
    | b :: _ => if b < 0x80 then 1 else if b < 0xE0 then 2 else if b < 0xF0 then 3 else 4
    | [] => 1
  let (bytes, c) ← escapedBytes? width c
  let text ← String.fromUTF8? ⟨bytes.toArray⟩
  let d ← text.toList.head?
  return (d, c)

def isUriChar (listed : Bool) (c : Char) : Bool :=
  isNameChar c || ";/?:@&=+$.!~*'()".toList.contains c || (listed && ",[]".toList.contains c)

def uri? (listed : Bool) (fuel : Nat) (c : Cursor) : Option (List Char × Cursor) :=
  match fuel, c.peek with
  | 0, _ => none
  | _, none => some ([], c)
  | fuel + 1, some d =>
    if d = '%' then do
      let (d, c) ← escapedChar? c
      let (text, c) ← uri? listed fuel c
      return (d :: text, c)
    else if isUriChar listed d then
      (uri? listed fuel c.skip).map fun (text, c) => (d :: text, c)
    else some ([], c)

def address? (listed : Bool) (c : Cursor) : Option (List Char × Cursor) := do
  let (text, c) ← uri? listed (c.rest.length + 1) c
  if text.isEmpty then none else return (text, c)

def versionLine? (c : Cursor) : Option (Token × Cursor) := do
  let (major, c) ← number? c
  if c.peek != some '.' then none
  else
    let (minor, c) ← number? c.skip
    return (.version major minor, c)

def tagLine? (c : Cursor) : Option (Token × Cursor) := do
  let (handle, c) ← handle? true c
  if !c.atSpace then none
  else
    let (uri, c) ← address? true (c.skipRun isSpace)
    if !endsWord c.peek then none
    else return (.tagHandle (String.ofList handle) (String.ofList uri), c)

def directive? (c : Cursor) : Option (Token × Cursor) := do
  let (name, c) := c.skip.takeRun isNameChar
  let body := c.skipRun isSpace
  let (token, c) ←
    if !endsWord c.peek then none
    else if name = "YAML".toList then versionLine? body
    else if name = "TAG".toList then tagLine? body
    else none
  let c := (c.skipRun isSpace).skipComment
  if !endsLine c.peek then none else return (token, if c.atBreak then c.skipBreak else c)

def verbatimTag? (c : Cursor) : Option ((List Char × List Char) × Cursor) := do
  let (uri, c) ← address? true (c.skipMany 2)
  if c.peek = some '>' then return (([], uri), c.skip) else none

def shortTag? (c : Cursor) : Option ((List Char × List Char) × Cursor) := do
  let (handle, c) ← handle? false c
  if 1 < handle.length && handle.getLast? = some '!' then
    let (uri, c) ← address? false c
    return ((handle, uri), c)
  else
    let (uri, c) ← uri? false (c.rest.length + 1) c
    let suffix := handle.drop 1 ++ uri
    return (if suffix.isEmpty then ([], ['!']) else (['!'], suffix), c)

def tag? (inFlow : Bool) (c : Cursor) : Option (Token × Cursor) := do
  let ((handle, suffix), c) ← if c.ahead 1 = some '<' then verbatimTag? c else shortTag? c
  if endsWord c.peek || (inFlow && c.peek = some ',') then
    return (.tag (String.ofList handle) (String.ofList suffix), c)
  else none

def name? (c : Cursor) : Option (String × Cursor) :=
  let (name, c) := c.skip.takeRun isNameChar
  let ended := endsWord c.peek || c.peek.any fun d => "?:,]\x7d%@`".toList.contains d
  if name.isEmpty || !ended then none else some (String.ofList name, c)

/-! The tokens. -/

def marker? (s : Scan) : Option Scan := do
  let s ← (s.unroll (-1)).dropKey?
  let s := s.allowKey false
  let c := s.cursor
  if c.peek = some '%' then
    let (t, c) ← directive? c
    return s.emit t c
  else return s.emit (if c.peek = some '-' then .documentStart else .documentEnd) (c.skipMany 3)

def open? (s : Scan) (t : Token) : Option Scan := do
  let s ← s.noteKey?
  let s := { s with key? := none, outerKeys := s.key? :: s.outerKeys, keyAllowed := true }
  return s.emit t s.cursor.skip

def close? (s : Scan) (t : Token) : Option Scan := do
  let s ← s.dropKey?
  let s := match s.outerKeys with
    | key :: keys => { s with key? := key, outerKeys := keys }
    | [] => s
  return (s.allowKey false).emit t s.cursor.skip

def comma? (s : Scan) : Option Scan := do
  let s ← s.dropKey?
  return (s.allowKey true).emit .comma s.cursor.skip

def dash? (s : Scan) : Option Scan := do
  let s ← (← s.rollHere? .blockSequence).dropKey?
  return (s.allowKey true).emit .dash s.cursor.skip

def keyMark? (s : Scan) : Option Scan := do
  let s ← (← s.rollHere? .blockMapping).dropKey?
  return (s.allowKey (!s.inFlow)).emit .key s.cursor.skip

/-- A colon. What stands at the remembered place becomes the key. -/
def valueMark? (s : Scan) : Option Scan :=
  match s.key? with
  | some k =>
    let s := { s with tokens := s.tokens.insertIdxIfInBounds k.position .key, key? := none }
    let s := (s.roll k.column k.position .blockMapping).allowKey false
    some (s.emit .value s.cursor.skip)
  | none => do
    let s ← s.rollHere? .blockMapping
    return (s.allowKey (!s.inFlow)).emit .value s.cursor.skip

def word? (s : Scan) (read : Cursor → Option (Token × Cursor)) : Option Scan := do
  let s ← s.noteKey?
  let (t, c) ← read s.cursor
  return (s.allowKey false).emit t c

/-- An anchor. Its number is the count of distinct names before it. -/
def anchor? (s : Scan) : Option Scan := do
  let s ← s.noteKey?
  let (name, c) ← name? s.cursor
  let number := s.anchors.length
  let s := { s with anchors := (name, number) :: s.anchors.filter fun a => a.1 != name }
  return (s.allowKey false).emit (.anchor number) c

def alias? (s : Scan) : Option Scan := do
  let s ← s.noteKey?
  let (name, c) ← name? s.cursor
  let anchor ← s.anchors.find? fun a => a.1 = name
  return (s.allowKey false).emit (.alias anchor.2) c

def block? (s : Scan) (literal : Bool) : Option Scan := do
  let s ← s.dropKey?
  let (text, c) ← blockText? literal s.indent s.cursor.skip
  return (s.allowKey true).emit (.scalar false text) c

def quoted? (single : Bool) (c : Cursor) : Option (Token × Cursor) := do
  let (c, f) ← quotedText? single (c.rest.length + 1) c.skip .empty
  return (.scalar false f.finish, c)

def plain? (s : Scan) : Option Scan := do
  let s ← s.noteKey?
  let (c, f) ← plainText? s.inFlow (s.indent + 1) (s.cursor.rest.length + 1) s.cursor .empty
  return (s.allowKey f.broken).emit (.scalar true f.finish) c

def isIndicator (c : Char) : Bool := "-?:,[]\x7b\x7d#&*!|>'\"%@`".toList.contains c

def startsPlain (s : Scan) (d : Char) : Bool :=
  let next := s.cursor.ahead 1
  !(isSpace d || isBreak d || isIndicator d) || (d = '-' && !next.any isSpace) ||
    (!s.inFlow && (d = '?' || d = ':') && !endsWord next)

def token? (s : Scan) (d : Char) : Option Scan :=
  let c := s.cursor
  let apart := endsWord (c.ahead 1)
  if (c.column = 0 && d = '%') || c.atDocumentMarker then s.marker?
  else if d = '[' then s.open? .openSequence
  else if d = '{' then s.open? .openMapping
  else if d = ']' then s.close? .closeSequence
  else if d = '}' then s.close? .closeMapping
  else if d = ',' then s.comma?
  else if d = '-' && apart then s.dash?
  else if d = '?' && (s.inFlow || apart) then s.keyMark?
  else if d = ':' && (s.inFlow || apart) then s.valueMark?
  else if d = '*' then s.alias?
  else if d = '&' then s.anchor?
  else if d = '!' then s.word? (tag? s.inFlow)
  else if (d = '|' || d = '>') && !s.inFlow then s.block? (d = '|')
  else if d = '\'' || d = '"' then s.word? (quoted? (d = '\''))
  else if s.startsPlain d then s.plain?
  else none

def run? (fuel : Nat) (s : Scan) : Option (List Token) :=
  match fuel with
  | 0 => none
  | fuel + 1 => do
    let s ← s.advance?
    match s.cursor.peek with
    | some d => run? fuel (← s.token? d)
    | none =>
      let s ← (s.unroll (-1)).dropKey?
      return s.tokens.toList

end Scan

def isPrintable (c : Char) : Bool :=
  c = '\t' || c = '\n' || c = '\r' || ('\x20' ≤ c && c ≤ '\x7e') || c = '\u0085' ||
    ('\u00a0' ≤ c && c.toNat ≤ 0xFFFD) || 0x10000 ≤ c.toNat

def Token.scan? (text : List Char) : Option (List Token) :=
  let text := if text.head? = some '\uFEFF' then text.drop 1 else text
  if text.all isPrintable then (Scan.start text).run? (text.length + 2) else none

end StateLint.Yaml
