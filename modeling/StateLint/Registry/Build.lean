import StateLint.Registry
import StateLint.Rule.Builtin

/-! The registry that a configuration asks for: the rules of its directories in order, then the
built-in rules if they are used. -/
namespace StateLint

structure RegistryError where
  dir : Path
  cause : RuleDirectoryError
  deriving DecidableEq, Repr

namespace RegistryError

def message (e : RegistryError) : String := "Failed to load rules from " ++ e.dir.text

/-- The message, and the messages of the causes behind it. -/
def messages (e : RegistryError) : List String := e.message :: e.cause.messages

end RegistryError

namespace Registry

def loadDirectories (r : Registry) (fs : FileSystem) : List Path → Except RegistryError Registry
  | [] => .ok r
  | dir :: dirs =>
    match r.loadDirectory fs dir with
    | .error cause => .error ⟨dir, cause⟩
    | .ok (_, r) => r.loadDirectories fs dirs

def loadDirectoriesLog (r : Registry) (fs : FileSystem) : List Path → List LogLine
  | [] => []
  | dir :: dirs =>
    r.loadDirectoryLog fs dir ++
      match r.loadDirectory fs dir with
      | .error _ => []
      | .ok (_, r) => r.loadDirectoriesLog fs dirs

def withBuiltinRules (r : Registry) : Registry :=
  if r.config.usesBuiltinRules then (r.extend Builtin.rules).2 else r

def build (fs : FileSystem) (config : Config) : Except RegistryError Registry :=
  match (empty config).loadDirectories fs config.rulesDirs with
  | .error e => .error e
  | .ok r => .ok r.withBuiltinRules

def buildLog (fs : FileSystem) (config : Config) : List LogLine :=
  (empty config).loadDirectoriesLog fs config.rulesDirs ++
    match (empty config).loadDirectories fs config.rulesDirs with
    | .error _ => []
    | .ok r =>
      (if config.usesBuiltinRules then r.extendLog Builtin.rules else []) ++
        [.debug ("Registered " ++ toString r.withBuiltinRules.size ++ " rules")]

end Registry

end StateLint
