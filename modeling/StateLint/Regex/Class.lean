import StateLint.Regex.Escape

/-! Bracketed classes.

Classes may be nested and combined: `&&` keeps what both sides have, `--` takes the right side
away, `~~` keeps what exactly one side has. The operators bind from the left and less tightly than
writing members side by side. -/
namespace StateLint.Regex

inductive ClassOp where
  | both
  | without
  | either
  deriving DecidableEq, Repr

structure ClassDraft where
  set : CharSet
  count : Nat
  depth : Nat

/-- What is still open around the current members, innermost first. -/
inductive ClassFrame where
  | bracket (negated : Bool) (outer : ClassDraft)
  | operand (op : ClassOp) (left : CharSet) (depth : Nat)

namespace ClassDraft

def none : ClassDraft := ⟨.empty, 0, 0⟩

def add (d : ClassDraft) (s : CharSet) (depth : Nat) : ClassDraft :=
  ⟨d.set.union s, d.count + 1, max d.depth depth⟩

def totalDepth (d : ClassDraft) : Nat := if d.count ≤ 1 then d.depth else d.depth + 1

end ClassDraft

def ClassOp.apply (op : ClassOp) (f : Flags) (left right : CharSet) : CharSet :=
  let l := f.fold left
  let r := f.fold right
  match op with
  | .both => l.inter r
  | .without => l.difference r
  | .either => l.symmDiff r

def closeOperand (f : Flags) (frames : List ClassFrame) (d : ClassDraft) :
    CharSet × Nat × List ClassFrame :=
  match frames with
  | .operand op left depth :: outer =>
    (op.apply f left d.set, max depth d.totalDepth + 1, outer)
  | _ => (d.set, d.totalDepth, frames)

def asciiClass? (name : String) : Option CharSet :=
  match name with
  | "alnum" => some (.ofRanges [(0x30, 0x39), (0x41, 0x5A), (0x61, 0x7A)])
  | "alpha" => some (.ofRanges [(0x41, 0x5A), (0x61, 0x7A)])
  | "ascii" => some (.ofRanges [(0, 0x7F)])
  | "blank" => some (.ofRanges [(9, 9), (0x20, 0x20)])
  | "cntrl" => some (.ofRanges [(0, 0x1F), (0x7F, 0x7F)])
  | "digit" => some (.ofRanges [(0x30, 0x39)])
  | "graph" => some (.ofRanges [(0x21, 0x7E)])
  | "lower" => some (.ofRanges [(0x61, 0x7A)])
  | "print" => some (.ofRanges [(0x20, 0x7E)])
  | "punct" => some (.ofRanges [(0x21, 0x2F), (0x3A, 0x40), (0x5B, 0x60), (0x7B, 0x7E)])
  | "space" => some (.ofRanges [(9, 13), (0x20, 0x20)])
  | "upper" => some (.ofRanges [(0x41, 0x5A)])
  | "word" => some asciiWord
  | "xdigit" => some (.ofRanges [(0x30, 0x39), (0x41, 0x46), (0x61, 0x66)])
  | _ => none

def readNamedClass? (s : List Char) : Option (Bool × CharSet × List Char) :=
  match s with
  | ':' :: s =>
    let (negated, s) := match s with
      | '^' :: r => (true, r)
      | _ => (false, s)
    match s.dropWhile (· != ':') with
    | ':' :: ']' :: rest =>
      (asciiClass? (String.ofList (s.takeWhile (· != ':')))).map (negated, ·, rest)
    | _ => none
  | _ => none

def readClassAtom (f : Flags) (s : List Char) : Except Fault (Atom × List Char) :=
  match s with
  | [] => .error .unclosedClass
  | '\\' :: s => readEscape f s
  | c :: s => .ok (.literal c false, s)

def classChar (f : Flags) (c : Char) : Except Fault Nat :=
  if !f.unicode && 0x7F < c.toNat then .error .brokenText else .ok c.toNat

def atomSet (f : Flags) : Atom → Except Fault CharSet
  | .literal c _ => (classChar f c).map fun n => .ofRanges [(n, n)]
  | .oneOf set => .ok set
  | .look _ => .error .badClassMember

def rangeSet (f : Flags) (low high : Atom) : Except Fault CharSet :=
  match low, high with
  | .literal a _, .literal b _ => do
    let a ← classChar f a
    let b ← classChar f b
    if b < a then .error .reversedRange else return .ofRanges [(a, b)]
  | _, _ => .error .badClassMember

def peekBehind (f : Flags) (s : List Char) : Option Char := (f.skip (s.drop 1)).head?

/-- Reads a single member or a range. A hyphen before `]` or `-` makes no range. -/
def readMember (f : Flags) (s : List Char) : Except Fault (CharSet × List Char) := do
  let (low, rest) ← readClassAtom f s
  match f.skip rest with
  | [] => .error .unclosedClass
  | '-' :: more =>
    if peekBehind f ('-' :: more) = some ']' || peekBehind f ('-' :: more) = some '-' then
      return (← atomSet f low, '-' :: more)
    else
      match f.skip more with
      | [] => .error .unclosedClass
      | more =>
        let (high, rest) ← readClassAtom f more
        return (← rangeSet f low high, rest)
  | rest => return (← atomSet f low, rest)

def leadingHyphens (f : Flags) (fuel : Nat) (d : ClassDraft) (s : List Char) : ClassDraft × List Char :=
  match fuel, s with
  | fuel + 1, '-' :: s => leadingHyphens f fuel (d.add (.ofChar '-') 0) (f.skip s)
  | _, _ => (d, s)

/-- Reads the start of a class behind its bracket: a `^`, hyphens, and a bracket that closes
nothing. -/
def openClass (f : Flags) (s : List Char) : Bool × ClassDraft × List Char :=
  let s := f.skip s
  let (negated, s) := match s with
    | '^' :: r => (true, f.skip r)
    | _ => (false, s)
  let (d, s) := leadingHyphens f s.length .none s
  match d.count, s with
  | 0, ']' :: r => (negated, d.add (.ofChar ']') 0, f.skip r)
  | _, _ => (negated, d, s)

/-- Reads members up to the bracket that closes the outermost class. Gives the set, how deeply it
is nested and the rest. -/
def readMembers (f : Flags) (fuel : Nat) (frames : List ClassFrame) (d : ClassDraft) (s : List Char) :
    Except Fault (CharSet × Nat × List Char) :=
  match fuel with
  | 0 => .error .unclosedClass
  | fuel + 1 =>
    let operator (op : ClassOp) (rest : List Char) :=
      let (left, depth, outer) := closeOperand f frames d
      readMembers f fuel (.operand op left depth :: outer) .none rest
    match f.skip s with
    | [] => .error .unclosedClass
    | '[' :: rest =>
      match readNamedClass? rest with
      | some (negated, set, rest) =>
        match f.finish negated set with
        | .ok set => readMembers f fuel frames (d.add set 0) rest
        | .error e => .error e
      | none =>
        let (negated, inner, rest) := openClass f rest
        readMembers f fuel (.bracket negated d :: frames) inner rest
    | ']' :: rest =>
      let (set, depth, outer) := closeOperand f frames d
      match outer with
      | .bracket negated around :: outer =>
        match f.finish negated set with
        | .error e => .error e
        | .ok set =>
          if outer.isEmpty then .ok (set, depth + 1, rest)
          else readMembers f fuel outer (around.add set (depth + 1)) rest
      | _ => .error .unclosedClass
    | '&' :: '&' :: rest => operator .both rest
    | '-' :: '-' :: rest => operator .without rest
    | '~' :: '~' :: rest => operator .either rest
    | s =>
      match readMember f s with
      | .ok (set, rest) => readMembers f fuel frames (d.add set 0) rest
      | .error e => .error e

def readClass (f : Flags) (s : List Char) : Except Fault (CharSet × Nat × List Char) :=
  let (negated, d, rest) := openClass f s
  readMembers f (s.length + 1) [.bracket negated .none] d rest

end StateLint.Regex
