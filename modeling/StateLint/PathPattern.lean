import StateLint.Glob.Parser
import StateLint.Text.Blank

/-! One line of a list of ignored paths.

A leading `!` takes paths back, a trailing slash asks for a directory, and a line without any other
slash applies to a name at every depth. A comment or an empty line is no pattern. -/
namespace StateLint

structure PathPattern where
  text : String
  negated : Bool
  dirOnly : Bool
  glob : Glob

namespace PathPattern

structure Outline where
  negated : Bool
  anchored : Bool
  dirOnly : Bool
  body : List Char
  deriving DecidableEq, Repr

/-- Takes the marks at the start of a line off. A backslash before `!` or `#` makes it a plain
character. -/
def outlineStart (line : List Char) : Outline :=
  match line with
  | '\\' :: '!' :: s => ⟨false, false, false, '!' :: s⟩
  | '\\' :: '#' :: s => ⟨false, false, false, '#' :: s⟩
  | '!' :: '/' :: s => ⟨true, true, false, s⟩
  | '!' :: s => ⟨true, false, false, s⟩
  | '/' :: s => ⟨false, true, false, s⟩
  | s => ⟨false, false, false, s⟩

def outline (line : List Char) : Outline :=
  let o := outlineStart line
  match o.body.reverse with
  | '/' :: '\\' :: s => { o with dirOnly := true, body := s.reverse }
  | '/' :: s => { o with dirOnly := true, body := s.reverse }
  | _ => o

def atAnyDepth (s : List Char) : Bool := "**/".toList.isPrefixOf s || s = "**".toList

/-- The glob that the body of a pattern stands for. `/**` asks for something below a directory. -/
def Outline.globText (o : Outline) : List Char :=
  let s := if !o.anchored && !o.body.contains '/' && !atAnyDepth o.body
    then "**/".toList ++ o.body else o.body
  if "/**".toList.isSuffixOf s then s ++ "/*".toList else s

/-- Blanks at the end of a line do not count, unless a backslash stands before the last one. -/
def withoutEnd (line : List Char) : List Char :=
  if "\\ ".toList.isSuffixOf line then line else Text.trimEnd line

def ofLine (line : String) : Except Glob.ParseError (Option PathPattern) :=
  if line.toList.head? = some '#' then .ok none
  else
    let s := withoutEnd line.toList
    if s.isEmpty then .ok none
    else
      let o := outline s
      match Glob.parse o.globText with
      | .ok glob => .ok (some ⟨String.ofList s, o.negated, o.dirOnly, glob⟩)
      | .error e => .error e

def applies (p : PathPattern) (isDir : Bool) (names : List String) : Bool :=
  (isDir || !p.dirOnly) && p.glob.accepts (String.intercalate "/" names)

end PathPattern

end StateLint
