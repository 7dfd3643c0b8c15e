import StateLint.Text.Split

/-! File paths.

A path is kept as it was written; what it means is read off its components, so that doubled
slashes, inner `.` components and a trailing slash do not matter. -/
namespace StateLint

structure Path where
  text : String
  deriving DecidableEq, Repr

namespace Path

inductive Component where
  | root
  | current
  | parent
  | normal (name : String)
  deriving DecidableEq, Repr

def isAbsolute (p : Path) : Bool := p.text.toList.head? == some '/'

def segments (p : Path) : List String :=
  ((Text.split '/' p.text.toList).filter fun s => !s.isEmpty).map String.ofList

/-- A `.` counts only as the first segment of a relative path. -/
def components (p : Path) : List Component :=
  let named := (p.segments.filter (· != ".")).map fun s =>
    if s = ".." then .parent else .normal s
  if p.isAbsolute then .root :: named
  else if p.segments.head? = some "." then .current :: named
  else named

def join (p q : Path) : Path :=
  if q.isAbsolute || p.text.isEmpty then q
  else if p.text.toList.getLast? = some '/' then ⟨p.text ++ q.text⟩
  else ⟨p.text ++ "/" ++ q.text⟩

/-- The part of a file's name after its last dot, unless the dot is the name's first character. -/
def extension? (p : Path) : Option String :=
  match p.components.getLast? with
  | some (.normal name) =>
    let rev := name.toList.reverse
    match rev.dropWhile (· != '.') with
    | _ :: _ :: _ => some (String.ofList (rev.takeWhile (· != '.')).reverse)
    | _ => none
  | _ => none

def relativeTo? (p base : Path) : Option (List Component) :=
  if base.components.isPrefixOf p.components then some (p.components.drop base.components.length)
  else none

end Path

end StateLint
