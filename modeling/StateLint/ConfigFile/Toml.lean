import StateLint.ConfigFile
import StateLint.Toml.Fields

/-! Configurations in TOML. -/
namespace StateLint

def Label.ofToml? : Toml → Option Label
  | .integer n => some (.number n)
  | .string s => some (.name s)
  | _ => none

def Entries.ofToml? : Toml → Option Entries
  | .string s => some (.one s)
  | .array items => (items.mapM Label.ofToml?).map .many
  | _ => none

/-- A section is a table, or a list whose first item is what to ignore. A date says nothing. -/
def RuleSection.ofToml? (v : Toml) : Option RuleSection :=
  let ignored? (v : Toml) := (Entries.ofToml? v).map fun e => RuleSection.mk (some e)
  match v with
  | .table fields => Toml.field? fields "ignore" ignored? (some ⟨none⟩)
  | .array (v :: _) => ignored? v
  | .array [] => some ⟨none⟩
  | .date => some ⟨none⟩
  | _ => none

namespace ConfigFile

def verbosityOfToml? : Toml → Option Nat
  | .integer n => if 0 ≤ n && n < 256 then some n.toNat else none
  | _ => none

def labelsOfToml? : Toml → Option (List Label)
  | .array items => items.mapM Label.ofToml?
  | _ => none

def rulesOfToml? : Toml → Option (List (Label × RuleSection))
  | .table members => do
    let rules ← members.mapM fun m => do return (Label.name m.1, ← RuleSection.ofToml? m.2)
    return rules.mergeSort fun a b => a.1.le b.1
  | _ => none

def ofToml? (fields : List (String × Toml)) : Option ConfigFile := do
  let flag? (name : String) := Toml.field? fields name Toml.truth? (some false)
  return {
    verbosity := ← Toml.field? fields "verbosity" verbosityOfToml? (some 0)
    excludePaths := ← Toml.field? fields "exclude_paths" Toml.texts? (some [])
    skipList := ← Toml.field? fields "skip_list" labelsOfToml? (some [])
    tags := ← Toml.field? fields "tags" (fun v => (Entries.ofToml? v).map some) (some none)
    useDefaultRules := ← flag? "use_default_rules"
    rulesDirs := (← Toml.field? fields "rulesdir" Toml.texts? (some [])).map Path.mk
    json := ← flag? "json"
    severity := ← flag? "severity"
    rules := ← Toml.field? fields "rules" rulesOfToml? (some []) }

end ConfigFile

end StateLint
