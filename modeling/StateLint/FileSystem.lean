import StateLint.Path

/-! What the linter asks of the machine's files.

A `FileSystem` is one fixed state of the files: each question has one answer. All code that
depends on files takes it as an argument. -/
namespace StateLint

inductive ReadError where
  | notFound
  | notADirectory
  | isADirectory
  | tooManyLinks
  | notText
  deriving DecidableEq, Repr

def ReadError.message : ReadError → String
  | .notFound => "No such file or directory (os error 2)"
  | .notADirectory => "Not a directory (os error 20)"
  | .isADirectory => "Is a directory (os error 21)"
  | .tooManyLinks => "Too many levels of symbolic links (os error 40)"
  | .notText => "stream did not contain valid UTF-8"

structure FileSystem where
  workingDir : Path
  /-- The absolute path without links of an existing file or directory. -/
  canonical? : Path → Option Path
  isDir : Path → Bool
  isFile : Path → Bool
  read : Path → Except ReadError String
  /-- The names in a directory, in no particular order. -/
  names : Path → List String

namespace FileSystem

def withFile (fs : FileSystem) (path : Path) (text : String) : FileSystem where
  workingDir := fs.workingDir
  canonical? p := if p = path then some path else fs.canonical? p
  isDir p := if p = path then false else fs.isDir p
  isFile p := if p = path then true else fs.isFile p
  read p := if p = path then .ok text else fs.read p
  names := fs.names

/-- The path that stands for a file among the files already seen: without links if it exists,
else as seen from the working directory. -/
def keyPath (fs : FileSystem) (path : Path) : Path :=
  match fs.canonical? path with
  | some real => real
  | none => fs.workingDir.join path

def key (fs : FileSystem) (path : Path) : List Path.Component := (fs.keyPath path).components

end FileSystem

end StateLint
