import StateLint.Path

/-! What a configuration file says. -/
namespace StateLint

/-- A rule id or a tag, which may be written as a number. -/
inductive Label where
  | number (value : Int)
  | name (value : String)
  deriving DecidableEq, Repr

namespace Label

def text : Label → String
  | number n => toString n
  | name s => s

def le : Label → Label → Bool
  | number m, number n => m ≤ n
  | number _, name _ => true
  | name _, number _ => false
  | name s, name t => s ≤ t

end Label

inductive Entries where
  | one (text : String)
  | many (items : List Label)
  deriving DecidableEq, Repr

def Entries.texts : Entries → List String
  | one text => [text]
  | many items => items.map Label.text

structure RuleSection where
  ignore : Option Entries
  deriving DecidableEq, Repr

structure ConfigFile where
  verbosity : Nat := 0
  excludePaths : List String := []
  skipList : List Label := []
  tags : Option Entries := none
  useDefaultRules : Bool := false
  rulesDirs : List Path := []
  json : Bool := false
  severity : Bool := false
  /-- In ascending order, each label once. -/
  rules : List (Label × RuleSection) := []
  deriving DecidableEq, Repr

inductive ConfigFormat where
  | yaml
  | toml
  deriving DecidableEq, Repr

def ConfigFormat.ofPath (path : Path) : ConfigFormat :=
  match path.extension? with
  | some e => if e.toLower = "toml" then .toml else .yaml
  | none => .yaml

end StateLint
