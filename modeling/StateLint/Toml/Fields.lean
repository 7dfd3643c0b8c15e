import StateLint.Toml

/-! Reading values of a wanted kind out of TOML. -/
namespace StateLint.Toml

def text? : Toml → Option String
  | .string s => some s
  | _ => none

def texts? : Toml → Option (List String)
  | .array items => items.mapM text?
  | _ => none

def truth? : Toml → Option Bool
  | .boolean b => some b
  | _ => none

/-- Reads a field: a missing one has a default, if it may be missing. -/
def field? {α : Type} (fields : List (String × Toml)) (name : String) (read : Toml → Option α)
    (default : Option α) : Option α :=
  match fields.find? fun f => f.1 = name with
  | some f => read f.2
  | none => default

end StateLint.Toml
