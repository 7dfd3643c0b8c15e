import StateLint.Regex.Expr

/-! Programs that search for a regular expression.

A program is an array of instructions that name the address to go on at. Expressions are compiled
from their end: the address that follows is known when an expression is compiled. -/
namespace StateLint.Regex

inductive Inst where
  | take (set : CharSet) (next : Nat)
  | check (condition : Look) (next : Nat)
  | split (first second : Nat)
  | accept
  deriving Repr

structure Program where
  code : Array Inst
  entry : Nat
  deriving Repr

namespace Program

/-- Compiles something in front of an address: from that address and the code so far to the
address where it begins and the extended code. -/
abbrev Emitter := Nat → Array Inst → Nat × Array Inst

def prefer (greedy : Bool) (inside outside : Nat) : Inst :=
  if greedy then .split inside outside else .split outside inside

def copies (n : Nat) (emit : Emitter) : Emitter := fun next code =>
  match n with
  | 0 => (next, code)
  | n + 1 =>
    let (start, code) := copies n emit next code
    emit start code

/-- Up to `n` times in a row; `out` is where to go on after fewer. -/
def options (n : Nat) (greedy : Bool) (out : Nat) (emit : Emitter) : Emitter := fun next code =>
  match n with
  | 0 => (next, code)
  | n + 1 =>
    let (start, code) := options n greedy out emit next code
    let (inside, code) := emit start code
    (code.size, code.push (prefer greedy inside out))

def loop (greedy : Bool) (emit : Emitter) (next : Nat) (code : Array Inst) :
    (Nat × Nat) × Array Inst :=
  let again := code.size
  let (inside, code) := emit again (code.push .accept)
  ((inside, again), code.setIfInBounds again (prefer greedy inside next))

def compile : Expr → Emitter
  | .empty => fun next code => (next, code)
  | .chars s => fun next code => (code.size, code.push (.take s next))
  | .look condition => fun next code => (code.size, code.push (.check condition next))
  | .seq a b => fun next code =>
    let (middle, code) := compile b next code
    compile a middle code
  | .alt a b => fun next code =>
    let (first, code) := compile a next code
    let (second, code) := compile b next code
    (code.size, code.push (.split first second))
  | .rep least most greedy body => fun next code =>
    match most with
    | some n =>
      let (start, code) := options (n - least) greedy next (compile body) next code
      copies least (compile body) start code
    | none =>
      let ((inside, again), code) := loop greedy (compile body) next code
      match least with
      | 0 =>
        if body.nullable then (code.size, code.push (prefer greedy inside next))
        else (again, code)
      | n + 1 => copies n (compile body) inside code

def ofExpr (e : Expr) : Program :=
  let (entry, code) := compile e 0 #[.accept]
  ⟨code, entry⟩

end Program

end StateLint.Regex
