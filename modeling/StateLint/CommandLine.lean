import StateLint.Options

/-! The arguments of the program.

Arguments are read from left to right. Short flags may be clustered behind one dash; the value of an
option stands behind it, with or without `=`, or is the next argument. After `--` all arguments are
inputs. -/
namespace StateLint

structure CommandLine where
  listRules : Bool := false
  listTags : Bool := false
  rulesDirs : List Path := []
  useDefaultRules : Bool := false
  tags : List String := []
  skipList : List String := []
  verbosity : Nat := 0
  /-- Whether colours are asked for; `none` leaves that to the terminal. -/
  color : Option Bool := none
  excludePaths : List String := []
  json : Bool := false
  severity : Bool := false
  config : Option Path := none
  states : List Path := []
  deriving DecidableEq, Repr

namespace CommandLine

inductive Stop where
  | usage
  | help
  | version
  deriving DecidableEq, Repr

inductive Flag where
  | listRules
  | listTags
  | useDefaultRules
  | verbose
  | noColor
  | forceColor
  | json
  | severity
  | help
  | version
  deriving DecidableEq, Repr

inductive Setting where
  | rulesDir
  | tags
  | skipList
  | excludePaths
  | config
  deriving DecidableEq, Repr

def shortFlag? (c : Char) : Option Flag :=
  match c with
  | 'L' => some .listRules
  | 'T' => some .listTags
  | 'R' => some .useDefaultRules
  | 'v' => some .verbose
  | 'h' => some .help
  | 'V' => some .version
  | _ => none

def longFlag? (name : String) : Option Flag :=
  match name with
  | "nocolor" => some .noColor
  | "nocolour" => some .noColor
  | "force-color" => some .forceColor
  | "force-colour" => some .forceColor
  | "json" => some .json
  | "severity" => some .severity
  | "help" => some .help
  | "version" => some .version
  | _ => none

def shortSetting? (c : Char) : Option Setting :=
  match c with
  | 'r' => some .rulesDir
  | 't' => some .tags
  | 'x' => some .skipList
  | 'c' => some .config
  | _ => none

def longSetting? (name : String) : Option Setting :=
  if name = "exclude" then some .excludePaths else none

/-- A flag is given once, except that verbosity adds up to a bound and that each of the two colour
flags undoes the other. -/
def setFlag (c : CommandLine) (flag : Flag) : Except Stop CommandLine :=
  let once (given : Bool) (next : CommandLine) : Except Stop CommandLine :=
    if given then .error .usage else .ok next
  match flag with
  | .listRules => once c.listRules { c with listRules := true }
  | .listTags => once c.listTags { c with listTags := true }
  | .useDefaultRules => once c.useDefaultRules { c with useDefaultRules := true }
  | .verbose => .ok { c with verbosity := min 255 (c.verbosity + 1) }
  | .noColor => once (c.color = some false) { c with color := some false }
  | .forceColor => once (c.color = some true) { c with color := some true }
  | .json => once c.json { c with json := true }
  | .severity => once c.severity { c with severity := true }
  | .help => .error .help
  | .version => .error .version

/-- A path must not be empty, and there is one configuration file. -/
def setValue (c : CommandLine) (setting : Setting) (value : String) : Except Stop CommandLine :=
  match setting with
  | .rulesDir =>
    if value.isEmpty then .error .usage else .ok { c with rulesDirs := c.rulesDirs ++ [⟨value⟩] }
  | .tags => .ok { c with tags := c.tags ++ [value] }
  | .skipList => .ok { c with skipList := c.skipList ++ [value] }
  | .excludePaths => .ok { c with excludePaths := c.excludePaths ++ [value] }
  | .config =>
    if value.isEmpty || c.config.isSome then .error .usage else .ok { c with config := some ⟨value⟩ }

def addState (c : CommandLine) (value : String) : Except Stop CommandLine :=
  if value.isEmpty then .error .usage else .ok { c with states := c.states ++ [⟨value⟩] }

def addStates (c : CommandLine) : List String → Except Stop CommandLine
  | [] => .ok c
  | value :: rest =>
    match c.addState value with
    | .ok c => c.addStates rest
    | .error stop => .error stop

def readCluster (c : CommandLine) : List Char → Except Stop (CommandLine × Option Setting)
  | [] => .ok (c, none)
  | d :: rest =>
    match shortFlag? d, shortSetting? d with
    | some flag, _ =>
      match c.setFlag flag with
      | .ok c => c.readCluster rest
      | .error stop => .error stop
    | none, some setting =>
      match rest with
      | [] => .ok (c, some setting)
      | '=' :: value => (c.setValue setting (String.ofList value)).map (·, none)
      | value => (c.setValue setting (String.ofList value)).map (·, none)
    | none, none => .error .usage

def readLong (c : CommandLine) (text : List Char) : Except Stop (CommandLine × Option Setting) :=
  let name := String.ofList (text.takeWhile (· != '='))
  match longFlag? name, longSetting? name, text.dropWhile (· != '=') with
  | some flag, _, [] => (c.setFlag flag).map (·, none)
  | none, some setting, [] => .ok (c, some setting)
  | none, some setting, _ :: value => (c.setValue setting (String.ofList value)).map (·, none)
  | _, _, _ => .error .usage

def looksLikeOption (arg : String) : Bool := arg.toList.head? = some '-' && arg != "-"

def readFrom (c : CommandLine) : List String → Except Stop CommandLine
  | [] => .ok c
  | arg :: rest =>
    if arg = "--" then c.addStates rest
    else if !looksLikeOption arg then
      match c.addState arg with
      | .ok c => c.readFrom rest
      | .error stop => .error stop
    else
      let step := match arg.toList with
        | '-' :: '-' :: name => c.readLong name
        | cluster => c.readCluster (cluster.drop 1)
      match step, rest with
      | .error stop, _ => .error stop
      | .ok (c, none), rest => c.readFrom rest
      | .ok (_, some _), [] => .error .usage
      | .ok (c, some setting), value :: rest =>
        if looksLikeOption value then .error .usage
        else
          match c.setValue setting value with
          | .ok c => c.readFrom rest
          | .error stop => .error stop

def parse (args : List String) : Except Stop CommandLine := readFrom {} args

def options (c : CommandLine) (onTerminal : Bool) : Options where
  verbosity := c.verbosity
  excludePaths := c.excludePaths
  skipList := c.skipList
  tags := c.tags
  useDefaultRules := c.useDefaultRules
  rulesDirs := c.rulesDirs
  json := c.json
  severity := c.severity
  colored := c.color.getD onTerminal

def versionText : String := "salt-lint 0.1.0\n"

def helpText : String :=
  "Usage: salt-lint [OPTIONS] [STATE_FILES]...\n\n" ++
  "Arguments:\n" ++
  "  [STATE_FILES]...  State files or directories to check\n\n" ++
  "Options:\n" ++
  "  -L                         List all rules\n" ++
  "  -T                         List all tags\n" ++
  "  -r <RULESDIR>              Directory of rule files\n" ++
  "  -R                         Use the built-in rules too\n" ++
  "  -t <TAGS>                  Only run rules with these ids or tags\n" ++
  "  -x <SKIP_LIST>             Skip rules with these ids or tags\n" ++
  "  -v...                      Tell more\n" ++
  "      --nocolor              Never use colours [aliases: --nocolour]\n" ++
  "      --force-color          Always use colours [aliases: --force-colour]\n" ++
  "      --exclude <EXCLUDE_PATHS>  Paths to leave out\n" ++
  "      --json                 Write JSON\n" ++
  "      --severity             Write the severity of each rule\n" ++
  "  -c <CONFIG>                Configuration file\n" ++
  "  -h, --help                 Print help\n" ++
  "  -V, --version              Print version\n"

end CommandLine

end StateLint
