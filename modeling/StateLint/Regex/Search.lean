import StateLint.Regex.Program

/-! Running a program over a text.

All ways to match are followed at once, as threads in order of preference. A thread knows where its
match began. The match that begins first wins; among those that begin there, the preferred one. -/
namespace StateLint.Regex

structure Span where
  start : Nat
  stop : Nat
  deriving DecidableEq, Repr

structure Thread where
  address : Nat
  start : Nat
  deriving DecidableEq, Repr

namespace Program

/-- The instructions reached at one position, and the threads that wait there, last first. -/
structure Frontier where
  seen : Array Bool
  threads : List Thread

/-- Follows the addresses on `stack`, topmost first, to instructions that take a character or
accept. An address is followed once, and `fuel` bounds the number of steps. -/
def follow (p : Program) (before after : Option Char) (start : Nat) (fuel : Nat)
    (stack : List Nat) (f : Frontier) : Frontier :=
  match fuel, stack with
  | 0, _ => f
  | _, [] => f
  | fuel + 1, a :: stack =>
    if f.seen.getD a true then follow p before after start fuel stack f
    else
      let f := { f with seen := f.seen.setIfInBounds a true }
      match p.code[a]? with
      | some (.split first second) => follow p before after start fuel (first :: second :: stack) f
      | some (.check condition next) =>
        follow p before after start fuel (if condition.holds before after then next :: stack else stack) f
      | some _ => follow p before after start fuel stack { f with threads := ⟨a, start⟩ :: f.threads }
      | none => follow p before after start fuel stack f

def followAll (p : Program) (before after : Option Char) (threads : List Thread) : List Thread :=
  let start : Frontier := ⟨Array.replicate p.code.size false, []⟩
  (threads.foldl (fun f t => p.follow before after t.start (2 * p.code.size + 2) [t.address] f)
    start).threads.reverse

/-- Takes one position: the threads that go on behind the next character, and the match that the
first accepting thread completes. Threads after it are dropped. -/
def advance (p : Program) (pos : Nat) (after : Option Char) : List Thread → List Thread × Option Span
  | [] => ([], none)
  | t :: ts =>
    match p.code[t.address]? with
    | some .accept => ([], some ⟨t.start, pos⟩)
    | some (.take set next) =>
      let (going, found) := p.advance pos after ts
      if after.any set.contains then (⟨next, t.start⟩ :: going, found) else (going, found)
    | _ => p.advance pos after ts

def run (p : Program) (pos : Nat) (before : Option Char) (threads : List Thread)
    (best : Option Span) (rest : List Char) : Option Span :=
  let threads := if best.isSome then threads else threads ++ [⟨p.entry, pos⟩]
  let (going, found) := p.advance pos rest.head? (p.followAll before rest.head? threads)
  let best := found <|> best
  match rest with
  | [] => best
  | c :: rest => if going.isEmpty && best.isSome then best else p.run (pos + 1) (some c) going best rest

def find? (p : Program) (pos : Nat) (before : Option Char) (rest : List Char) : Option Span :=
  p.run pos before [] none rest

/-- The matches from `pos` on, none of which overlap. An empty match right behind the previous
match, which ended at `last`, does not count. -/
def spansFrom (p : Program) (fuel : Nat) (last : Option Nat) (pos : Nat) (before : Option Char)
    (rest : List Char) : List Span :=
  match fuel with
  | 0 => []
  | fuel + 1 =>
    let found := match p.find? pos before rest with
      | none => none
      | some m =>
        if m.start = m.stop ∧ last = some m.stop then
          match rest with
          | [] => none
          | c :: rest => p.find? (pos + 1) (some c) rest
        else some m
    match found with
    | none => []
    | some m =>
      let taken := rest.take (m.stop - pos)
      m :: p.spansFrom fuel (some m.stop) m.stop (taken.getLast? <|> before) (rest.drop (m.stop - pos))

def spans (p : Program) (text : List Char) : List Span :=
  p.spansFrom (text.length + 2) none 0 none text

def matchesIn (p : Program) (text : List Char) : Bool := (p.find? 0 none text).isSome

end Program

end StateLint.Regex
