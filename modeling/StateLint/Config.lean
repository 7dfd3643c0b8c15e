import StateLint.ConfigFile.Toml
import StateLint.ConfigFile.Yaml
import StateLint.FileSystem
import StateLint.Keys
import StateLint.Options
import StateLint.PathPatternSet
import StateLint.Toml.Parser
import StateLint.Yaml.Parser

/-! What holds for a run of the linter.

Options and a configuration file are joined field by field: lists are put one after the other, a
flag is set if either sets it, and verbosities are added. All patterns are compiled here, so that a
malformed one stops the run before it begins. -/
namespace StateLint

inductive ConfigError where
  | unreadable (path : Path) (cause : ReadError)
  | malformed
  | badPattern (key : String) (cause : PatternError)
  deriving DecidableEq, Repr

namespace ConfigError

def code : ConfigError → String
  | unreadable _ _ => "salt_lint::config::io"
  | malformed => "salt_lint::config::parse"
  | badPattern _ _ => "salt_lint::config::pattern"

def help? : ConfigError → Option String
  | unreadable _ _ => none
  | malformed => some "check the YAML/TOML syntax and the value types of each key"
  | badPattern _ _ => some "patterns use .gitignore syntax, e.g. `tests/**/*.jinja` or `build/`"

def message : ConfigError → String
  | unreadable path cause => "Failed to read config file " ++ path.text ++ ": " ++ cause.message
  | malformed => "invalid config"
  | badPattern key cause => "invalid pattern in `" ++ key ++ "`: " ++ cause.line

end ConfigError

namespace ConfigFile

def parse (text : String) (format : ConfigFormat) : Except ConfigError ConfigFile :=
  let file? := match format with
    | .yaml => (Yaml.parse? text).bind ofYaml?
    | .toml => (Toml.parse? text).bind ofToml?
  match file? with
  | some file => .ok file
  | none => .error .malformed

def load (fs : FileSystem) (path : Path) : Except ConfigError ConfigFile :=
  match fs.read path with
  | .error cause => .error (.unreadable path cause)
  | .ok text => parse text (.ofPath path)

end ConfigFile

structure Config where
  verbosity : Nat
  excludePaths : PathPatternSet
  skipList : List String
  /-- Ascending, without repetitions. If empty, all rules are run. -/
  tags : List String
  useDefaultRules : Bool
  rulesDirs : List Path
  json : Bool
  severity : Bool
  colored : Bool
  /-- The files that a rule id or tag does not apply to. Each key occurs once. -/
  rules : List (String × Option PathPatternSet)

namespace Config

def default : Config := ⟨0, .empty, [], [], false, [], false, false, false, []⟩

def maxVerbosity : Nat := 255

def keysOf (entries : List String) : List String :=
  Keys.ofList (((entries.flatMap commaPieces).map trimmed).filter fun key => !key.isEmpty)

def compileEntries (here : Path) : Entries → Except PatternError PathPatternSet
  | .one block => PathPatternSet.compileBlock (some here) block
  | .many items => PathPatternSet.compile (some here) (items.map Label.text)

def compileSection (here : Path) (label : Label) (sec : RuleSection) :
    Except ConfigError (Option PathPatternSet) :=
  match sec.ignore with
  | none => .ok none
  | some entries =>
    match compileEntries here entries with
    | .ok set => .ok (some set)
    | .error cause => .error (.badPattern ("rules." ++ label.text ++ ".ignore") cause)

/-- The patterns of all sections. Of two labels with the same text the later one counts. -/
def compileSections (here : Path) :
    List (Label × RuleSection) → Except ConfigError (List (String × Option PathPatternSet))
  | [] => .ok []
  | (label, sec) :: rest =>
    match compileSection here label sec with
    | .error e => .error e
    | .ok set =>
      match compileSections here rest with
      | .error e => .error e
      | .ok more =>
        .ok (if more.any fun m => m.1 = label.text then more else (label.text, set) :: more)

def resolve (here : Path) (options : Options) (file : ConfigFile) : Except ConfigError Config :=
  match PathPatternSet.compile (some here) (options.excludePaths ++ file.excludePaths) with
  | .error cause => .error (.badPattern "exclude_paths" cause)
  | .ok excludePaths =>
    match compileSections here file.rules with
    | .error e => .error e
    | .ok rules => .ok {
        verbosity := min maxVerbosity (options.verbosity + file.verbosity)
        excludePaths := excludePaths
        skipList := keysOf (options.skipList ++ file.skipList.map Label.text)
        tags := keysOf (options.tags ++ ((file.tags.map Entries.texts).getD []))
        useDefaultRules := options.useDefaultRules || file.useDefaultRules
        rulesDirs := options.rulesDirs ++ file.rulesDirs
        json := options.json || file.json
        severity := options.severity || file.severity
        colored := options.colored
        rules := rules }

def ofOptions (here : Path) (options : Options) : Except ConfigError Config :=
  resolve here options {}

def load (fs : FileSystem) (options : Options) (path : Path) : Except ConfigError Config :=
  match ConfigFile.load fs path with
  | .ok file => resolve fs.workingDir options file
  | .error e => .error e

def isExcluded (c : Config) (path : Path) : Bool := c.excludePaths.contains path

def isIgnored (c : Config) (path : Path) (key : String) : Bool :=
  match c.rules.find? fun r => r.1 = key with
  | some (_, some set) => set.contains path
  | _ => false

def usesBuiltinRules (c : Config) : Bool := c.useDefaultRules || c.rulesDirs.isEmpty

end Config

end StateLint
