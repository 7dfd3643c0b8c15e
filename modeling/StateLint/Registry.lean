import StateLint.Config
import StateLint.Finding
import StateLint.RuleDirectory
import StateLint.StateFile

/-! The rules of a run, in the order in which they were registered. An id is registered once: the
first rule that has it keeps it. -/
namespace StateLint

structure Registry where
  config : Config
  rules : List Rule

namespace Registry

def empty (config : Config) : Registry := ⟨config, []⟩

def size (r : Registry) : Nat := r.rules.length

def isEmpty (r : Registry) : Bool := r.rules.isEmpty

def has (r : Registry) (id : String) : Bool := r.rules.any fun rule => rule.id = id

/-- Adds a rule after all others, unless its id is taken; says whether it was added. -/
def register (r : Registry) (rule : Rule) : Bool × Registry :=
  if r.has rule.id then (false, r) else (true, { r with rules := r.rules ++ [rule] })

def registerLog (r : Registry) (rule : Rule) : List LogLine :=
  if r.has rule.id then
    [.warn ("Rule " ++ rule.id ++ " is already registered, skipping duplicate")]
  else []

def extend (r : Registry) : List Rule → Nat × Registry
  | [] => (0, r)
  | rule :: rules =>
    let (added, r) := r.register rule
    let (count, r) := r.extend rules
    (count + added.toNat, r)

def extendLog (r : Registry) : List Rule → List LogLine
  | [] => []
  | rule :: rules => r.registerLog rule ++ (r.register rule).2.extendLog rules

def loadDirectory (r : Registry) (fs : FileSystem) (dir : Path) :
    Except RuleDirectoryError (Nat × Registry) :=
  match RuleDirectory.load fs dir with
  | .ok rules => .ok (r.extend rules)
  | .error e => .error e

def loadDirectoryLog (r : Registry) (fs : FileSystem) (dir : Path) : List LogLine :=
  RuleDirectory.loadLog fs dir ++
    match RuleDirectory.load fs dir with
    | .ok rules =>
      .debug ("Loaded " ++ toString rules.length ++ " rules from " ++ dir.text) :: r.extendLog rules
    | .error _ => []

def ofDirectory (config : Config) (fs : FileSystem) (dir : Path) :
    Except RuleDirectoryError Registry :=
  match (empty config).loadDirectory fs dir with
  | .ok (_, r) => .ok r
  | .error e => .error e

def sorted (r : Registry) : List Rule := r.rules.mergeSort fun a b => a.id ≤ b.id

/-- The ids of the rules with a tag, once for each time that a rule has it. -/
def idsTagged (r : Registry) (tag : String) : List String :=
  r.rules.flatMap fun rule => (rule.tags.filter (· = tag)).map fun _ => rule.id

def tags (r : Registry) : List (String × List String) :=
  (Keys.ofList (r.rules.flatMap (·.tags))).map fun tag => (tag, r.idsTagged tag)

def listing (r : Registry) : String := String.intercalate "\n" (r.sorted.map Rule.listing)

def tagListing (r : Registry) : String :=
  String.intercalate "\n" (r.tags.map fun (tag, ids) =>
    tag ++ " [" ++ String.intercalate ", " ids ++ "]")

def inspect (r : Registry) : String :=
  "RuleRegistry \x7b rules: [" ++ String.intercalate ", " (r.rules.map fun rule => Text.quoted rule.id) ++
    "], .. \x7d"

def hasKeyIn (rule : Rule) (keys : List String) : Bool := rule.keys.any keys.contains

def isSelected (tags : List String) (rule : Rule) : Bool := tags.isEmpty || hasKeyIn rule tags

def ignoringKey? (config : Config) (file : Path) (rule : Rule) : Option String :=
  rule.keys.find? (config.isIgnored file)

def runs (r : Registry) (file : Path) (tags skipList : List String) (rule : Rule) : Bool :=
  isSelected tags rule && (ignoringKey? r.config file rule).isNone && !hasKeyIn rule skipList

/-- The findings in one file. A file that cannot be read has none. -/
def run (r : Registry) (fs : FileSystem) (file : StateFile) (tags skipList : List String) :
    List Finding :=
  match fs.read file.path with
  | .error _ => []
  | .ok text =>
    (r.rules.filter (r.runs file.path tags skipList)).flatMap fun rule => rule.findings file text

def runLog (r : Registry) (fs : FileSystem) (file : StateFile) (tags : List String) : List LogLine :=
  match fs.read file.path with
  | .error cause => [.warn ("Couldn't open " ++ file.path.text ++ " - " ++ cause.message)]
  | .ok _ =>
    (r.rules.filter (isSelected tags)).filterMap fun rule =>
      (ignoringKey? r.config file.path rule).map fun key =>
        .debug ("Rule " ++ rule.id ++ " ignored for " ++ file.path.text ++ " via `" ++ key ++ "`")

end Registry

end StateLint
