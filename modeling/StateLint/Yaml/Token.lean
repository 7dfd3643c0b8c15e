/-! The tokens of a YAML text. -/
namespace StateLint.Yaml

/-- Blocks are held together by indentation; their beginnings and ends are tokens of their own. -/
inductive Token where
  | version (major minor : Nat)
  | tagHandle (handle uri : String)
  | documentStart
  | documentEnd
  | blockSequence
  | blockMapping
  | blockEnd
  | openSequence
  | closeSequence
  | openMapping
  | closeMapping
  | dash
  | comma
  | key
  | value
  /-- Stands for the node with that anchor. Anchors are numbered. -/
  | alias (anchor : Nat)
  | anchor (number : Nat)
  /-- An empty handle says that the suffix is the whole tag. -/
  | tag (handle suffix : String)
  | scalar (plain : Bool) (text : String)
  deriving DecidableEq, Repr

end StateLint.Yaml
