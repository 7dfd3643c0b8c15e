import StateLint.CheckedFiles
import StateLint.Registry
import StateLint.Report

/-! A run over some inputs. Each file that is not excluded is checked once, under the first of its
spellings. -/
namespace StateLint

/-- JSON comes before the severity. -/
def Config.reportFormat (c : Config) : Report.Format :=
  if c.json then .json else if c.severity then .severity else .plain

namespace Lint

def files (fs : FileSystem) (config : Config) (input : Path) : List StateFile :=
  let file := StateFile.ofInput fs input
  if config.isExcluded file.path then [] else [file]

def filesLog (fs : FileSystem) (config : Config) (input : Path) : List LogLine :=
  let file := StateFile.ofInput fs input
  if config.isExcluded file.path then [.debug ("Excluding " ++ file.path.text)] else []

def checkFile (registry : Registry) (config : Config) (fs : FileSystem) (checked : CheckedFiles)
    (file : StateFile) : List Finding × CheckedFiles :=
  match checked.claim fs file.path with
  | (true, checked) => (registry.run fs file config.tags config.skipList, checked)
  | (false, checked) => ([], checked)

def checkFileLog (registry : Registry) (config : Config) (fs : FileSystem) (checked : CheckedFiles)
    (file : StateFile) : List LogLine :=
  match checked.claim fs file.path with
  | (false, _) => [.debug ("Already checked " ++ file.path.text)]
  | (true, _) =>
    (if 0 < config.verbosity then
      [.info ("Examining " ++ file.path.text ++ " of type " ++ file.kind.name)] else []) ++
      registry.runLog fs file config.tags

def checkFiles (registry : Registry) (config : Config) (fs : FileSystem) (checked : CheckedFiles) :
    List StateFile → List Finding × CheckedFiles
  | [] => ([], checked)
  | file :: rest =>
    let (found, checked) := checkFile registry config fs checked file
    let (more, checked) := checkFiles registry config fs checked rest
    (found ++ more, checked)

def checkFilesLog (registry : Registry) (config : Config) (fs : FileSystem) (checked : CheckedFiles) :
    List StateFile → List LogLine
  | [] => []
  | file :: rest =>
    checkFileLog registry config fs checked file ++
      checkFilesLog registry config fs (checkFile registry config fs checked file).2 rest

def checkInput (registry : Registry) (config : Config) (fs : FileSystem) (checked : CheckedFiles)
    (input : Path) : List Finding × CheckedFiles :=
  checkFiles registry config fs checked (files fs config input)

def checkInputLog (registry : Registry) (config : Config) (fs : FileSystem) (checked : CheckedFiles)
    (input : Path) : List LogLine :=
  filesLog fs config input ++ checkFilesLog registry config fs checked (files fs config input)

def checkInputs (registry : Registry) (config : Config) (fs : FileSystem) (report : Report)
    (checked : CheckedFiles) : List Path → Report × CheckedFiles
  | [] => (report, checked)
  | input :: rest =>
    let (found, checked) := checkInput registry config fs checked input
    checkInputs registry config fs (report.extend found) checked rest

def checkInputsLog (registry : Registry) (config : Config) (fs : FileSystem)
    (checked : CheckedFiles) : List Path → List LogLine
  | [] => []
  | input :: rest =>
    checkInputLog registry config fs checked input ++
      checkInputsLog registry config fs (checkInput registry config fs checked input).2 rest

def run (registry : Registry) (config : Config) (fs : FileSystem) (inputs : List Path) : Report :=
  (checkInputs registry config fs .empty .empty inputs).1.sort

def claimed (registry : Registry) (config : Config) (fs : FileSystem) (inputs : List Path) :
    CheckedFiles :=
  (checkInputs registry config fs .empty .empty inputs).2

def runLog (registry : Registry) (config : Config) (fs : FileSystem) (inputs : List Path) :
    List LogLine :=
  checkInputsLog registry config fs .empty inputs ++
    [.info ("Checked " ++ toString (claimed registry config fs inputs).size ++ " file(s), " ++
      toString (run registry config fs inputs).size ++ " match(es)")]

end Lint

end StateLint
