import StateLint.Text.Blank
import StateLint.Text.Split

/-! Sets of characters.

A set is an array of intervals of code points in ascending order, none of which touches the next,
so that membership is a binary search. Surrogates are not characters and never matter. -/
namespace StateLint

structure CharSet where
  ranges : Array (Nat × Nat)
  deriving DecidableEq, Repr

namespace CharSet

def empty : CharSet := ⟨#[]⟩

def all : CharSet := ⟨#[(0, 0xD7FF), (0xE000, 0x10FFFF)]⟩

/-- Joins intervals that overlap or touch; they come in ascending order of their lower ends. -/
def mergeRanges : List (Nat × Nat) → List (Nat × Nat)
  | [] => []
  | [r] => [r]
  | (a, b) :: (c, d) :: rest =>
    if c ≤ b + 1 then mergeRanges ((a, max b d) :: rest) else (a, b) :: mergeRanges ((c, d) :: rest)
termination_by rs => rs.length

def ofRanges (rs : List (Nat × Nat)) : CharSet :=
  ⟨(mergeRanges (rs.mergeSort fun r s => r.1 ≤ s.1)).toArray⟩

def ofChar (c : Char) : CharSet := ⟨#[(c.toNat, c.toNat)]⟩

def search (rs : Array (Nat × Nat)) (n low high : Nat) : Bool :=
  if low < high then
    let mid := (low + high) / 2
    match rs[mid]? with
    | none => false
    | some (a, b) =>
      if n < a then search rs n low mid
      else if b < n then search rs n (mid + 1) high
      else true
  else false
termination_by high - low

def containsCode (s : CharSet) (n : Nat) : Bool := search s.ranges n 0 s.ranges.size

def contains (s : CharSet) (c : Char) : Bool := s.containsCode c.toNat

def isEmpty (s : CharSet) : Bool := s.ranges.isEmpty

def isAscii (s : CharSet) : Bool := s.ranges.all fun r => r.2 ≤ 0x7F

def union (s t : CharSet) : CharSet := ofRanges (s.ranges.toList ++ t.ranges.toList)

def gaps (low : Nat) : List (Nat × Nat) → List (Nat × Nat)
  | [] => if low ≤ 0x10FFFF then [(low, 0x10FFFF)] else []
  | (a, b) :: rest => if low < a then (low, a - 1) :: gaps (b + 1) rest else gaps (b + 1) rest

def complement (s : CharSet) : CharSet :=
  .ofRanges (gaps 0 (mergeRanges ((s.ranges.toList ++ [(0xD800, 0xDFFF)]).mergeSort
    fun r t => r.1 ≤ t.1)))

def inter (s t : CharSet) : CharSet := (s.complement.union t.complement).complement

def difference (s t : CharSet) : CharSet := s.inter t.complement

def symmDiff (s t : CharSet) : CharSet := (s.difference t).union (t.difference s)

/-! Sets written as text: words of hexadecimal code points, alone or with a hyphen between two. -/

def isHexDigit (c : Char) : Bool := c.isDigit || ('a' ≤ c && c ≤ 'f')

def hexDigit (c : Char) : Nat :=
  if c.isDigit then c.toNat - '0'.toNat
  else if 'a' ≤ c && c ≤ 'f' then c.toNat - 'a'.toNat + 10
  else c.toNat - 'A'.toNat + 10

def hexNumber (digits : List Char) : Nat := digits.foldl (fun n c => 16 * n + hexDigit c) 0

def tableWords (text : String) : List (List Char) := Text.words text.toList

def readRange (word : List Char) : Nat × Nat :=
  match Text.split '-' word with
  | [low, high] => (hexNumber low, hexNumber high)
  | _ => (hexNumber word, hexNumber word)

def ofWords (words : List (List Char)) : CharSet := .ofRanges (words.map readRange)

end CharSet

end StateLint
