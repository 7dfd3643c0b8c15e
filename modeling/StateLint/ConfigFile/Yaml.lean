import StateLint.ConfigFile
import StateLint.Yaml.Fields

/-! Configurations in YAML. -/
namespace StateLint

/-- Whole numbers with 64 bits and texts, both without a tag. -/
def Label.ofYaml? : Yaml → Option Label
  | .integer n => if n < Int.pow 2 63 then some (.number n) else none
  | .string s => some (.name s)
  | _ => none

def Entries.ofYaml? : Yaml → Option Entries
  | .string s => some (.one s)
  | .sequence items => (items.mapM Label.ofYaml?).map .many
  | _ => none

def RuleSection.ofYaml? (v : Yaml) : Option RuleSection := do
  let fields ← v.fields?
  let ignore ← Yaml.field? fields "ignore" (Yaml.orNull none fun v => (Entries.ofYaml? v).map some) none
  return ⟨ignore⟩

namespace ConfigFile

def verbosityOfYaml? (v : Yaml) : Option Nat :=
  match v.untagged with
  | .integer n => if 0 ≤ n && n < 256 then some n.toNat else none
  | _ => none

def rulesOfYaml? (v : Yaml) : Option (List (Label × RuleSection)) := do
  let entries ← v.entries?
  let rules ← entries.mapM fun e => do return (← Label.ofYaml? e.1, ← RuleSection.ofYaml? e.2)
  return rules.mergeSort fun a b => a.1.le b.1

def ofYaml? (v : Yaml) : Option ConfigFile := do
  let fields ← v.fields?
  let flag? (name : String) := Yaml.field? fields name (Yaml.orNull false Yaml.truth?) false
  return {
    verbosity := ← Yaml.field? fields "verbosity" (Yaml.orNull 0 verbosityOfYaml?) 0
    excludePaths := ← Yaml.field? fields "exclude_paths" Yaml.texts? []
    skipList := ← Yaml.field? fields "skip_list" (fun v => v.items?.bind (·.mapM Label.ofYaml?)) []
    tags := ← Yaml.field? fields "tags" (Yaml.orNull none fun v => (Entries.ofYaml? v).map some) none
    useDefaultRules := ← flag? "use_default_rules"
    rulesDirs := (← Yaml.field? fields "rulesdir" Yaml.texts? []).map Path.mk
    json := ← flag? "json"
    severity := ← flag? "severity"
    rules := ← Yaml.field? fields "rules" rulesOfYaml? [] }

end ConfigFile

end StateLint
