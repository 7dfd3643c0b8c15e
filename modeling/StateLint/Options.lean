import StateLint.Path

/-! What is asked for on the command line. -/
namespace StateLint

structure Options where
  verbosity : Nat := 0
  excludePaths : List String := []
  /-- Rule ids and tags, perhaps several in one text with commas between them. -/
  skipList : List String := []
  tags : List String := []
  useDefaultRules : Bool := false
  rulesDirs : List Path := []
  json : Bool := false
  severity : Bool := false
  colored : Bool := false
  deriving DecidableEq, Repr

end StateLint
