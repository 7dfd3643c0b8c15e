import StateLint.Yaml

/-! Reading values of a wanted kind out of YAML. Tags do not matter, and null is an empty list and
an empty set of fields. -/
namespace StateLint.Yaml

def text? (v : Yaml) : Option String :=
  match v.untagged with
  | .string s => some s
  | _ => none

def truth? (v : Yaml) : Option Bool :=
  match v.untagged with
  | .bool b => some b
  | _ => none

def items? (v : Yaml) : Option (List Yaml) :=
  match v.untagged with
  | .null => some []
  | .sequence items => some items
  | _ => none

def texts? (v : Yaml) : Option (List String) := v.items?.bind (·.mapM text?)

def entries? (v : Yaml) : Option (List (Yaml × Yaml)) :=
  match v.untagged with
  | .null => some []
  | .mapping entries => some entries
  | _ => none

def fields? (v : Yaml) : Option (List (String × Yaml)) :=
  v.entries?.bind (·.mapM fun e => e.1.text?.map (·, e.2))

def orNull {α : Type} (default : α) (read : Yaml → Option α) (v : Yaml) : Option α :=
  match v with
  | .null => some default
  | v => read v

/-- Reads a field that may be missing, but not occur twice. -/
def field? {α : Type} (fields : List (String × Yaml)) (name : String) (read : Yaml → Option α)
    (default : α) : Option α :=
  match fields.filter fun f => f.1 = name with
  | [] => some default
  | [f] => read f.2
  | _ => none

end StateLint.Yaml
