import StateLint.FileSystem
import StateLint.Log
import StateLint.RuleFile

/-! Directories of rule files. The files named `*.toml` are read in the order of their names, and no
id may occur in two of them. -/
namespace StateLint

inductive RuleDirectoryError where
  | missing (dir : Path)
  | unreadable (file : Path) (cause : ReadError)
  | inFile (file : Path) (cause : RuleFileError)
  | repeatedId (id : String) (file first : Path)
  deriving DecidableEq, Repr

namespace RuleDirectoryError

def message : RuleDirectoryError → String
  | missing dir => "rules directory " ++ dir.text ++ " does not exist"
  | unreadable file cause => "failed to read rule file " ++ file.text ++ ": " ++ cause.message
  | inFile file cause => file.text ++ ": " ++ cause.message
  | repeatedId id file first =>
    "duplicate rule id `" ++ id ++ "` in " ++ file.text ++ " (first defined in " ++ first.text ++ ")"

def messages (e : RuleDirectoryError) : List String :=
  match e with
  | missing _ => [e.message]
  | unreadable _ cause => [e.message, cause.message]
  | inFile _ .malformed => [e.message, RuleFileError.malformed.message]
  | inFile _ (.rule error) => [e.message, error.message, error.message]
  | repeatedId _ _ _ => [e.message]

end RuleDirectoryError

namespace RuleDirectory

/-- The path of a file in a directory, without a leading `.` and without needless slashes. -/
def filePath (dir : Path) (name : String) : Path :=
  let start := String.ofList (dir.text.toList.takeWhile (· = '/'))
  let names := if dir.isAbsolute then dir.segments else dir.segments.dropWhile (· = ".")
  ⟨start ++ String.intercalate "/" (names ++ [name])⟩

def isRuleFileName (name : String) : Bool := ".toml".toList.isSuffixOf name.toList

def files (fs : FileSystem) (dir : Path) : List Path :=
  ((((fs.names dir).filter isRuleFileName).mergeSort fun a b => a ≤ b).map (filePath dir)).filter
    fs.isFile

/-- The rules that the text of one file adds; `defined` says where the ids so far come from. -/
def addRules (file : Path) (defined : List (String × Path)) :
    List Rule → Except RuleDirectoryError (List (String × Path))
  | [] => .ok defined
  | rule :: rules =>
    match defined.find? fun d => d.1 = rule.id with
    | some (_, first) => .error (.repeatedId rule.id file first)
    | none => addRules file (defined ++ [(rule.id, file)]) rules

def loadFile (fs : FileSystem) (file : Path) : Except RuleDirectoryError (List Rule) :=
  match fs.read file with
  | .error cause => .error (.unreadable file cause)
  | .ok text =>
    match RuleFile.parse text with
    | .error cause => .error (.inFile file cause)
    | .ok rules => .ok rules

def visit (fs : FileSystem) (defined : List (String × Path)) (file : Path) :
    Except RuleDirectoryError (List Rule × List (String × Path)) :=
  match loadFile fs file with
  | .error e => .error e
  | .ok rules =>
    match addRules file defined rules with
    | .error e => .error e
    | .ok defined => .ok (rules, defined)

def loadFiles (fs : FileSystem) (defined : List (String × Path)) :
    List Path → Except RuleDirectoryError (List Rule)
  | [] => .ok []
  | file :: rest =>
    match visit fs defined file with
    | .error e => .error e
    | .ok (rules, defined) =>
      match loadFiles fs defined rest with
      | .ok more => .ok (rules ++ more)
      | .error e => .error e

/-- The files that are opened: all, or those up to the first that cannot be used. -/
def opened (fs : FileSystem) (defined : List (String × Path)) : List Path → List Path
  | [] => []
  | file :: rest =>
    file :: match visit fs defined file with
      | .ok (_, defined) => opened fs defined rest
      | .error _ => []

def load (fs : FileSystem) (dir : Path) : Except RuleDirectoryError (List Rule) :=
  if fs.isDir dir then loadFiles fs [] (files fs dir) else .error (.missing dir)

def loadLog (fs : FileSystem) (dir : Path) : List LogLine :=
  if fs.isDir dir then
    (opened fs [] (files fs dir)).map fun file => .debug ("Loading rule file " ++ file.text)
  else []

end RuleDirectory

end StateLint
