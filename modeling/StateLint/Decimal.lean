import StateLint.CharSet

/-! Numbers as they are written: digits in a base, and decimals with an exponent. -/
namespace StateLint

def numberOf (base : Nat) (digits : List Char) : Nat :=
  digits.foldl (fun n c => base * n + CharSet.hexDigit c) 0

def isDigitOf (base : Nat) (c : Char) : Bool :=
  (c.isDigit || ('a' ≤ c && c ≤ 'f') || ('A' ≤ c && c ≤ 'F')) && CharSet.hexDigit c < base

structure Decimal where
  mantissa : Nat
  exponent : Int
  deriving DecidableEq, Repr

namespace Decimal

def ofParts (whole fraction : List Char) (exponent : Int) : Decimal :=
  ⟨numberOf 10 (whole ++ fraction), exponent - fraction.length⟩

/-- The first number that is no double: halfway between the largest double and the next power
of two. -/
def hugeBound : Nat := Nat.pow 2 1024 - Nat.pow 2 970

/-- The exponent of the leading digit, plus one. -/
def magnitude (d : Decimal) : Int := (Nat.toDigits 10 d.mantissa).length + d.exponent

def isHuge (d : Decimal) : Bool :=
  if d.mantissa = 0 || d.magnitude < 300 then false
  else if 320 < d.magnitude then true
  else if 0 ≤ d.exponent then hugeBound ≤ d.mantissa * Nat.pow 10 d.exponent.toNat
  else hugeBound * Nat.pow 10 (-d.exponent).toNat ≤ d.mantissa

def toFloat (d : Decimal) : Float :=
  if d.mantissa = 0 || d.magnitude < -400 then 0
  else Float.ofScientific d.mantissa (d.exponent < 0) d.exponent.natAbs

end Decimal

end StateLint
