/-! YAML values. -/
namespace StateLint

/-- A `real` is a double given by its bits; there is one zero and one that is not a number. -/
inductive Yaml where
  | null
  | bool (value : Bool)
  | integer (value : Int)
  | real (bits : UInt64)
  | string (value : String)
  | sequence (items : List Yaml)
  | mapping (entries : List (Yaml × Yaml))
  | tagged (tag : String) (value : Yaml)
  deriving Inhabited

namespace Yaml

mutual

/-- Whether two values are equal as keys: the order of a mapping's entries does not count. -/
def same (x y : Yaml) : Bool :=
  match x, y with
  | .null, .null => true
  | .bool a, .bool b => a = b
  | .integer a, .integer b => a = b
  | .real a, .real b => a = b
  | .string a, .string b => a = b
  | .sequence xs, .sequence ys => sameItems xs ys
  | .mapping xs, .mapping ys => xs.length = ys.length && sameEntries xs ys
  | .tagged s x, .tagged t y => s = t && same x y
  | _, _ => false

def sameItems (xs ys : List Yaml) : Bool :=
  match xs, ys with
  | [], [] => true
  | x :: xs, y :: ys => same x y && sameItems xs ys
  | _, _ => false

def sameEntries (xs ys : List (Yaml × Yaml)) : Bool :=
  match xs with
  | [] => true
  | (k, v) :: xs => (ys.any fun y => same k y.1 && same v y.2) && sameEntries xs ys

end

def untagged : Yaml → Yaml
  | .tagged _ value => value.untagged
  | value => value

def distinctKeys : List (Yaml × Yaml) → Bool
  | [] => true
  | (k, _) :: es => (es.all fun e => !k.same e.1) && distinctKeys es

def mapping? (entries : List (Yaml × Yaml)) : Option Yaml :=
  if distinctKeys entries then some (.mapping entries) else none

end Yaml

end StateLint
