import StateLint.Path
import StateLint.PathPattern

/-! Lists of ignored paths.

A path is tested first as a file, then each directory above it is tested in turn, up to the empty
path. The first of these levels that some pattern speaks about decides, and at one level the last
such pattern does. -/
namespace StateLint

structure PatternError where
  line : String
  cause : Glob.ParseError
  deriving DecidableEq, Repr

structure PathPatternSet where
  base : Option Path
  patterns : List PathPattern

namespace PathPatternSet

def empty : PathPatternSet := ⟨none, []⟩

def isEmpty (set : PathPatternSet) : Bool := set.patterns.isEmpty

def size (set : PathPatternSet) : Nat := set.patterns.length

def lines (set : PathPatternSet) : List String := set.patterns.map (·.text)

def holdsPattern (line : String) : Bool :=
  let s := (trimmedEnd line).toList
  !(Text.trimStart s).isEmpty && s.head? != some '#'

def compileLines : List String → Except PatternError (List PathPattern)
  | [] => .ok []
  | line :: rest =>
    if holdsPattern line then
      match PathPattern.ofLine (trimmedEnd line) with
      | .error cause => .error ⟨line, cause⟩
      | .ok none => compileLines rest
      | .ok (some p) =>
        match compileLines rest with
        | .ok ps => .ok (p :: ps)
        | .error e => .error e
    else compileLines rest

def compile (base : Option Path) (lines : List String) : Except PatternError PathPatternSet :=
  match compileLines lines with
  | .ok patterns => .ok ⟨base, patterns⟩
  | .error e => .error e

def compileBlock (base : Option Path) (block : String) : Except PatternError PathPatternSet :=
  compile base ((Text.blockLines block.toList).map String.ofList)

/-- What the patterns say about one level: the last one that applies decides. -/
def verdictAt? (patterns : List PathPattern) (isDir : Bool) (names : List String) : Option Bool :=
  (patterns.reverse.find? (·.applies isDir names)).map (!·.negated)

/-- What the patterns say about a path and the directories above it. The names stand in reverse
order, so that the directory above is the tail. -/
def verdict? (patterns : List PathPattern) (isDir : Bool) : List String → Option Bool
  | [] => verdictAt? patterns isDir []
  | name :: above =>
    match verdictAt? patterns isDir (name :: above).reverse with
    | some v => some v
    | none => verdict? patterns true above

def componentName? : Path.Component → Option String
  | .normal name => some name
  | .parent => some ".."
  | .root => none
  | .current => none

def namesFrom (base : Option Path) (path : Path) : List String :=
  let components := match base with
    | some b => if path.isAbsolute then (path.relativeTo? b).getD path.components else path.components
    | none => path.components
  components.filterMap componentName?

def contains (set : PathPatternSet) (path : Path) : Bool :=
  match namesFrom set.base path with
  | [] => false
  | names => !set.isEmpty && verdict? set.patterns false names.reverse == some true

end PathPatternSet

end StateLint
