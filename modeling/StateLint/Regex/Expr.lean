import StateLint.Unicode.Property

/-! Regular expressions, and what they ask of the characters around a position. -/
namespace StateLint.Regex

/-- How a position lies to the words around it. A half edge looks at one side only. -/
inductive WordEdge where
  | boundary
  | noBoundary
  | start
  | stop
  | startHalf
  | stopHalf
  deriving DecidableEq, Repr

/-- A condition on a position. A line ends at `\n`; for the variants with `Any`, a line also ends
at `\r`, and `\r\n` is one end. Words are ASCII unless `unicode` is set. -/
inductive Look where
  | startText
  | endText
  | startLine
  | endLine
  | startAnyLine
  | endAnyLine
  | word (edge : WordEdge) (unicode : Bool)
  deriving DecidableEq, Repr

def isWordChar (unicode : Bool) (c : Char) : Bool :=
  if unicode then Unicode.Property.wordChars.contains c else c.isAlphanum || c = '_'

def WordEdge.holds (edge : WordEdge) (before after : Bool) : Bool :=
  match edge with
  | .boundary => before != after
  | .noBoundary => before == after
  | .start => !before && after
  | .stop => before && !after
  | .startHalf => !before
  | .stopHalf => !after

def Look.holds (look : Look) (before after : Option Char) : Bool :=
  match look with
  | .startText => before.isNone
  | .endText => after.isNone
  | .startLine => before.isNone || before == some '\n'
  | .endLine => after.isNone || after == some '\n'
  | .startAnyLine =>
    before.isNone || before == some '\n' || (before == some '\r' && after != some '\n')
  | .endAnyLine =>
    after.isNone || after == some '\r' || (after == some '\n' && before != some '\r')
  | .word edge unicode => edge.holds (before.any (isWordChar unicode)) (after.any (isWordChar unicode))

inductive Expr where
  | empty
  | chars (set : CharSet)
  | look (condition : Look)
  | seq (first second : Expr)
  | alt (first second : Expr)
  | rep (least : Nat) (most : Option Nat) (greedy : Bool) (body : Expr)
  deriving Repr

namespace Expr

def nullable : Expr → Bool
  | empty => true
  | chars _ => false
  | look _ => true
  | seq a b => a.nullable && b.nullable
  | alt a b => a.nullable || b.nullable
  | rep least _ _ body => least = 0 || body.nullable

def zeroWidth : Expr → Bool
  | empty => true
  | chars _ => false
  | look _ => true
  | seq a b => a.zeroWidth && b.zeroWidth
  | alt a b => a.zeroWidth && b.zeroWidth
  | rep _ most _ body => most = some 0 || body.zeroWidth

def repeated (least : Nat) (most : Option Nat) (greedy : Bool) (body : Expr) : Expr :=
  if body.zeroWidth then rep (min least 1) (some (min (most.getD 1) 1)) greedy body
  else rep least most greedy body

/-- The room a compiled set takes: characters beyond ASCII are spelled byte by byte. -/
def setCost (s : CharSet) : Nat :=
  match s.ranges.toList with
  | [(a, b)] => if a = b then 32 * (if a ≤ 0x7F then 1 else if a ≤ 0x7FF then 2 else if a ≤ 0xFFFF then 3 else 4)
    else if b ≤ 0x7F then 32 else 128
  | rs => if s.isAscii then 32 + 8 * rs.length else 64 * rs.length

def cost : Expr → Nat
  | empty => 32
  | chars s => setCost s
  | look _ => 32
  | seq a b => a.cost + b.cost
  | alt a b => a.cost + b.cost + 40
  | rep least most _ body => 32 + (match most with
    | none => max least 1 * body.cost + 40
    | some n => n * (body.cost + (if least = n then 0 else 40)))

end Expr

end StateLint.Regex
