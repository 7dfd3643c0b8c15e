import StateLint.Config
import StateLint.Log

/-! Where the configuration of a run comes from. -/
namespace StateLint

inductive ConfigSource where
  | explicit (path : Path)
  | project (path : Path)
  | global (path : Path)
  | fallback
  deriving DecidableEq, Repr

namespace ConfigSource

/-- The names of a project's configuration files; the first one found counts. -/
def projectNames : List String := [".salt-lint", "salt-lint.toml"]

def globalName : String := "config"

def path? : ConfigSource → Option Path
  | explicit p => some p
  | project p => some p
  | global p => some p
  | fallback => none

def find (fs : FileSystem) (projectDir : Path) (named : Option Path) (globalDir : Option Path) :
    ConfigSource :=
  match named with
  | some p => .explicit p
  | none =>
    match (projectNames.map fun name => projectDir.join ⟨name⟩).find? fs.isFile with
    | some p => .project p
    | none =>
      match (globalDir.map fun dir => dir.join ⟨globalName⟩).filter fs.isFile with
      | some p => .global p
      | none => .fallback

def log : ConfigSource → List LogLine
  | project p => [.debug ("Found project config: " ++ p.text)]
  | global p => [.debug ("Found global config: " ++ p.text)]
  | _ => []

def load (source : ConfigSource) (fs : FileSystem) (options : Options) : Except ConfigError Config :=
  match source.path? with
  | some path => Config.load fs options path
  | none => Config.ofOptions fs.workingDir options

def globalDir (configured home : Option Path) : Option Path :=
  match configured with
  | some dir => some dir
  | none => home.map fun dir => dir.join ⟨".salt-lint"⟩

end ConfigSource

end StateLint
