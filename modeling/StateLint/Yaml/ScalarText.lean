import StateLint.Decimal
import StateLint.Yaml.Cursor

/-! The texts of scalars: plain, in quotes, and as indented blocks.

Within plain and quoted scalars a single line end stands for a space and each further one for
itself; blanks around line ends do not count. -/
namespace StateLint.Yaml

/-- A scalar under construction, last character first. Blanks and line ends are held back until it
is known what follows them. -/
structure Folding where
  text : List Char
  blanks : List Char
  firstBreak : Option Char
  moreBreaks : List Char
  broken : Bool

namespace Folding

def empty : Folding := ⟨[], [], none, [], false⟩

def settle (f : Folding) : Folding :=
  if f.broken then
    let text := match f.firstBreak with
      | some '\n' => if f.moreBreaks.isEmpty then ' ' :: f.text else f.moreBreaks ++ f.text
      | some b => f.moreBreaks ++ b :: f.text
      | none => f.moreBreaks ++ f.text
    ⟨text, [], none, [], false⟩
  else { f with text := f.blanks ++ f.text, blanks := [] }

def push (f : Folding) (c : Char) : Folding := { f with text := c :: f.text }

def holdBlank (f : Folding) (c : Char) : Folding :=
  if f.broken then f else { f with blanks := c :: f.blanks }

def holdBreak (f : Folding) (c : Char) : Folding :=
  if f.broken then { f with moreBreaks := keptBreak c :: f.moreBreaks }
  else { f with blanks := [], firstBreak := some (keptBreak c), broken := true }

def finish (f : Folding) : String := String.ofList f.text.reverse

end Folding

def isFlowMark (c : Char) : Bool := c = ',' || c = '[' || c = ']' || c = '{' || c = '}'

def plainWord? (inFlow : Bool) (fuel : Nat) (c : Cursor) (f : Folding) : Option (Cursor × Folding) :=
  match fuel, c.peek with
  | 0, _ => none
  | _, none => some (c, f)
  | fuel + 1, some d =>
    if isSpace d || isBreak d then some (c, f)
    else if inFlow && d = ':' && (c.ahead 1).any (fun e => e = '?' || isFlowMark e) then none
    else if (d = ':' && endsWord (c.ahead 1)) || (inFlow && isFlowMark d) then some (c, f)
    else plainWord? inFlow fuel c.skip (f.settle.push d)

/-- Blanks and line ends inside a plain scalar. A tab must not stand where the indentation of
`indent` columns is asked for. -/
def plainGap? (indent : Int) (fuel : Nat) (c : Cursor) (f : Folding) : Option (Cursor × Folding) :=
  match fuel, c.peek with
  | 0, _ => none
  | _, none => some (c, f)
  | fuel + 1, some d =>
    if isSpace d then
      if f.broken && (c.column : Int) < indent && d = '\t' then none
      else plainGap? indent fuel c.skip (f.holdBlank d)
    else if isBreak d then plainGap? indent fuel c.skipBreak (f.holdBreak d)
    else some (c, f)

def plainText? (inFlow : Bool) (indent : Int) (fuel : Nat) (c : Cursor) (f : Folding) :
    Option (Cursor × Folding) :=
  match fuel with
  | 0 => none
  | fuel + 1 =>
    if c.atDocumentMarker || c.peek = some '#' then some (c, f)
    else
      match plainWord? inFlow (c.rest.length + 1) c f with
      | none => none
      | some (c, f) =>
        if !c.atSpace && !c.atBreak then some (c, f)
        else
          match plainGap? indent (c.rest.length + 1) c f with
          | none => none
          | some (c, f) =>
            if !inFlow && (c.column : Int) < indent then some (c, f)
            else plainText? inFlow indent fuel c f

def escape? (c : Char) : Option (Char ⊕ Nat) :=
  match c with
  | '0' => some (.inl '\x00')
  | 'a' => some (.inl '\x07')
  | 'b' => some (.inl '\x08')
  | 't' => some (.inl '\t')
  | '\t' => some (.inl '\t')
  | 'n' => some (.inl '\n')
  | 'v' => some (.inl '\x0b')
  | 'f' => some (.inl '\x0c')
  | 'r' => some (.inl '\r')
  | 'e' => some (.inl '\x1b')
  | ' ' => some (.inl ' ')
  | '"' => some (.inl '"')
  | '/' => some (.inl '/')
  | '\\' => some (.inl '\\')
  | 'N' => some (.inl '\u0085')
  | '_' => some (.inl '\u00a0')
  | 'L' => some (.inl '\u2028')
  | 'P' => some (.inl '\u2029')
  | 'x' => some (.inr 2)
  | 'u' => some (.inr 4)
  | 'U' => some (.inr 8)
  | _ => none

def codePoint? (digits : List Char) (count : Nat) : Option Char :=
  let n := numberOf 16 digits
  if digits.length = count && digits.all (isDigitOf 16) && (n < 0xD800 || 0xDFFF < n) && n ≤ 0x10FFFF
  then some (Char.ofNat n) else none

def quotedText? (single : Bool) (fuel : Nat) (c : Cursor) (f : Folding) : Option (Cursor × Folding) :=
  match fuel with
  | 0 => none
  | fuel + 1 =>
    let quote := if single then '\'' else '"'
    if c.atDocumentMarker then none
    else
      match c.peek with
      | none => none
      | some d =>
        if isSpace d then quotedText? single fuel c.skip (f.holdBlank d)
        else if isBreak d then quotedText? single fuel c.skipBreak (f.holdBreak d)
        else if single && d = quote && c.ahead 1 = some quote then
          quotedText? single fuel (c.skipMany 2) (f.settle.push quote)
        else if d = quote then some (c.skip, f.settle)
        else if !single && d = '\\' then
          match c.ahead 1 with
          | none => none
          | some e =>
            if isBreak e then
              quotedText? single fuel c.skip.skipBreak { f.settle with broken := true }
            else
              match escape? e with
              | none => none
              | some (.inl x) => quotedText? single fuel (c.skipMany 2) (f.settle.push x)
              | some (.inr n) =>
                let digits := (c.rest.drop 2).take n
                match codePoint? digits n with
                | none => none
                | some x => quotedText? single fuel (c.skipMany (2 + n)) (f.settle.push x)
        else quotedText? single fuel c.skip (f.settle.push d)

/-! Blocks. -/

inductive Chomping where
  | strip
  | clip
  | keep
  deriving DecidableEq, Repr

def blockHeader? (c : Cursor) : Option (Chomping × Nat × Cursor) :=
  let chomping? (c : Cursor) : Option (Chomping × Cursor) :=
    match c.peek with
    | some '+' => some (.keep, c.skip)
    | some '-' => some (.strip, c.skip)
    | _ => none
  let digit? (c : Cursor) : Option (Nat × Cursor) :=
    match c.peek with
    | some d => if d.isDigit then some (d.toNat - '0'.toNat, c.skip) else none
    | none => none
  let (chomping, increment, c) := match chomping? c with
    | some (ch, c) =>
      match digit? c with
      | some (n, c) => (ch, some n, c)
      | none => (ch, none, c)
    | none =>
      match digit? c with
      | some (n, c) =>
        match chomping? c with
        | some (ch, c) => (ch, some n, c)
        | none => (Chomping.clip, some n, c)
      | none => (Chomping.clip, none, c)
  if increment = some 0 then none
  else
    let c := (c.skipRun isSpace).skipComment
    if !endsLine c.peek then none
    else some (chomping, increment.getD 0, if c.atBreak then c.skipBreak else c)

/-- Empty lines and the indentation of the line behind them. The indentation is `indent` columns,
or unknown if that is zero; the widest line seen so far is `widest`. -/
def blockGap? (indent : Nat) (fuel : Nat) (widest : Nat) (breaks : List Char) (c : Cursor) :
    Option (Nat × List Char × Cursor) :=
  match fuel with
  | 0 => none
  | fuel + 1 =>
    let room := if indent = 0 then c.rest.length else indent - c.column
    let spaces := ((c.rest.take room).takeWhile (· = ' ')).length
    let c := c.skipMany spaces
    let widest := max widest c.column
    if (indent = 0 || c.column < indent) && c.peek = some '\t' then none
    else
      match c.peek with
      | some d =>
        if isBreak d then blockGap? indent fuel widest (keptBreak d :: breaks) c.skipBreak
        else some (widest, breaks, c)
      | none => some (widest, breaks, c)

/-- A block under construction, last character first: the line end of the last line, whether that
line began with a blank, and the empty lines behind it. -/
structure BlockDraft where
  text : List Char
  lineEnd : List Char
  ledByBlank : Bool
  emptyLines : List Char

def blockLines? (literal : Bool) (indent : Nat) (fuel : Nat) (c : Cursor) (b : BlockDraft) :
    Option (Cursor × BlockDraft) :=
  match fuel with
  | 0 => none
  | fuel + 1 =>
    if c.column != indent || c.peek.isNone then some (c, b)
    else
      let blank := c.atSpace
      let text :=
        if !literal && b.lineEnd = ['\n'] && !b.ledByBlank && !blank then
          if b.emptyLines.isEmpty then ' ' :: b.text else b.emptyLines ++ b.text
        else b.emptyLines ++ (b.lineEnd ++ b.text)
      let (line, c) := c.takeRun (!isBreak ·)
      let lineEnd := (c.peek.map keptBreak).toList
      let c := if c.atBreak then c.skipBreak else c
      match blockGap? indent (c.rest.length + 1) 0 [] c with
      | none => none
      | some (_, breaks, c) =>
        blockLines? literal indent fuel c ⟨line.reverse ++ text, lineEnd, blank, breaks⟩

def blockText? (literal : Bool) (parent : Int) (c : Cursor) : Option (String × Cursor) :=
  match blockHeader? c with
  | none => none
  | some (chomping, increment, c) =>
    let given := if increment = 0 then 0 else ((max parent 0) + increment).toNat
    match blockGap? given (c.rest.length + 1) 0 [] c with
    | none => none
    | some (widest, breaks, c) =>
      let indent := if given = 0 then max (max widest (parent + 1).toNat) 1 else given
      match blockLines? literal indent (c.rest.length + 1) c ⟨[], [], false, breaks⟩ with
      | none => none
      | some (c, b) =>
        let text := match chomping with
          | .strip => b.text
          | .clip => b.lineEnd ++ b.text
          | .keep => b.emptyLines ++ (b.lineEnd ++ b.text)
        some (String.ofList text.reverse, c)

end StateLint.Yaml
