import StateLint.FileSystem

/-! The files that rules are applied to. -/
namespace StateLint

inductive FileKind where
  | state
  /-- The input named the directory of the file. -/
  | init
  deriving DecidableEq, Repr

def FileKind.name : FileKind → String
  | state => "state"
  | init => "init"

structure StateFile where
  path : Path
  kind : FileKind
  deriving DecidableEq, Repr

namespace StateFile

def entryName : String := "init.sls"

/-- A directory stands for a file in it, any other path for itself. -/
def ofInput (fs : FileSystem) (input : Path) : StateFile :=
  if fs.isDir input then ⟨input.join ⟨entryName⟩, .init⟩ else ⟨input, .state⟩

end StateFile

end StateLint
