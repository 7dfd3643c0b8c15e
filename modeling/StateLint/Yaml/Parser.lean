import StateLint.Yaml.Node
import StateLint.Yaml.Scalar
import StateLint.Yaml.Token.Scan

/-! The value of a YAML text. -/
namespace StateLint.Yaml

/-- The value of a node. Each alias is replaced by what it stands for, at most `limit` times in all;
collections are nested at most `depth` deep. The state counts the aliases. -/
def expand? (anchors : List (Nat × Node)) (limit : Nat) (depth : Nat) (node : Node) :
    StateT Nat Option Yaml := do
  let node ← match node with
    | .alias a => do
      let used ← get
      if limit ≤ used then failure
      else
        set (used + 1)
        match anchors.find? fun n => n.1 = a with
        | some n => pure n.2
        | none => failure
    | node => pure node
  match node, depth with
  | .alias _, _ => failure
  | .scalar about plain text, _ => liftM (ofScalar? about.tag plain text)
  | .sequence about items, depth + 1 => do
    let values ← items.mapM fun n => expand? anchors limit depth n
    return withTag (tagName? about.tag) (.sequence values)
  | .mapping about entries, depth + 1 => do
    let pairs ← entries.mapM fun e => do
      let key ← expand? anchors limit depth e.1
      let value ← expand? anchors limit depth e.2
      pure (key, value)
    let value ← liftM (mapping? pairs)
    return withTag (tagName? about.tag) value
  | _, 0 => failure

def maxDepth : Nat := 128

def parse? (text : String) : Option Yaml := do
  let tokens ← Token.scan? text.toList
  let node ← Node.document? tokens
  let (value, _) ← (expand? node.anchored.reverse (100 * node.weight) maxDepth node).run 0
  return value

end StateLint.Yaml
