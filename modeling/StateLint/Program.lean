import StateLint.CommandLine
import StateLint.ConfigSource
import StateLint.Lint
import StateLint.Registry.Build

/-! The program as a whole: from arguments, files and standard input to what is printed. -/
namespace StateLint

structure Environment where
  fs : FileSystem
  configDir : Option Path
  home : Option Path
  logFilter : Option String
  /-- What is piped in; nothing if standard input is a terminal. -/
  stdin : ByteArray
  /-- Where a text that is piped in is stored: an absolute path with nothing at it. -/
  stdinPath : Path
  onTerminal : Bool

inductive Failure where
  | usage
  | help
  | badInput
  | config (error : ConfigError)
  | registry (error : RegistryError)
  deriving DecidableEq, Repr

namespace Failure

def messages : Failure → List String
  | usage => ["wrong arguments"]
  | help => []
  | badInput => ["Failed to read stdin", ReadError.notText.message]
  | config e => [e.message]
  | registry e => e.messages

def report (f : Failure) : String :=
  match f with
  | help => CommandLine.helpText
  | f => "Error: " ++ String.intercalate ": " f.messages

end Failure

structure Outcome where
  code : Nat
  stdout : String
  log : List LogLine
  failure : Option Failure

namespace Outcome

def success (stdout : String) (log : List LogLine) : Outcome := ⟨0, stdout, log, none⟩

def failed (failure : Failure) (log : List LogLine) : Outcome := ⟨1, "", log, some failure⟩

end Outcome

namespace Program

/-- The level up to which log lines are shown: a filter that is set comes before the verbosity. -/
def threshold (filter : Option String) (verbosity : Nat) : Option LogLevel :=
  let own : LogLevel := if verbosity = 0 then .warn else if verbosity = 1 then .info else .debug
  match filter with
  | none => some own
  | some name =>
    match name.toLower with
    | "off" => none
    | "" => some .error
    | "error" => some .error
    | "warn" => some .warn
    | "info" => some .info
    | "debug" => some .debug
    | "trace" => some .debug
    | _ => some own

def stdinText (env : Environment) : Except Failure (Option String) :=
  match String.fromUTF8? env.stdin with
  | none => .error .badInput
  | some text => .ok (if text.isEmpty then none else some text)

def filesWith (env : Environment) : Option String → FileSystem
  | some text => env.fs.withFile env.stdinPath text
  | none => env.fs

def inputs (env : Environment) (c : CommandLine) (text : Option String) : List Path :=
  c.states ++ (text.map fun _ => env.stdinPath).toList

def source (env : Environment) (c : CommandLine) : ConfigSource :=
  .find env.fs env.fs.workingDir c.config (ConfigSource.globalDir env.configDir env.home)

def check (registry : Registry) (config : Config) (fs : FileSystem) (inputs : List Path) :
    Nat × String :=
  let report := Lint.run registry config fs inputs
  (if report.isEmpty then 0 else 2, report.render config.reportFormat config.colored)

def answer (registry : Registry) (config : Config) (c : CommandLine) (fs : FileSystem)
    (inputs : List Path) : Nat × String :=
  if c.listRules then (0, registry.listing ++ "\n")
  else if c.listTags then (0, registry.tagListing ++ "\n")
  else check registry config fs inputs

def answerLog (registry : Registry) (config : Config) (c : CommandLine) (fs : FileSystem)
    (inputs : List Path) : List LogLine :=
  if c.listRules || c.listTags then [] else Lint.runLog registry config fs inputs

def runWith (env : Environment) (c : CommandLine) (text : Option String) (config : Config) : Outcome :=
  let told := (source env c).path?.toList.map fun p => LogLine.info ("Using config: " ++ p.text)
  let shown := LogLine.upTo (threshold env.logFilter config.verbosity)
  let fs := filesWith env text
  let inputs := inputs env c text
  if inputs.isEmpty && !c.listRules && !c.listTags then .failed .help (shown told)
  else
    let log := told ++ Registry.buildLog fs config
    match Registry.build fs config with
    | .error e => .failed (.registry e) (shown log)
    | .ok registry =>
      let (code, stdout) := answer registry config c fs inputs
      ⟨code, stdout, shown (log ++ answerLog registry config c fs inputs), none⟩

def run (env : Environment) (c : CommandLine) : Outcome :=
  match stdinText env with
  | .error failure => .failed failure []
  | .ok text =>
    match (source env c).load env.fs (c.options env.onTerminal) with
    | .error e => .failed (.config e) []
    | .ok config => runWith env c text config

def start (env : Environment) (args : List String) : Outcome :=
  match CommandLine.parse args with
  | .ok c => run env c
  | .error .usage => ⟨2, "", [], some .usage⟩
  | .error .help => .success CommandLine.helpText []
  | .error .version => .success CommandLine.versionText []

end Program

end StateLint
