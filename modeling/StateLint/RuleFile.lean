import StateLint.Rule.Pattern
import StateLint.Toml.Fields
import StateLint.Toml.Parser

/-! Rules written in a file.

A rule file is a TOML document with a list of tables named `rule`. Each table is first read into a
`RuleSpec`, then checked and turned into a rule. -/
namespace StateLint

structure RuleSpec where
  id : String
  summary : String
  description : String
  severity : String
  tags : List String
  versionAdded : Option String
  pattern : String
  scope : String
  message : Option String
  hidesExpressions : Bool
  deriving DecidableEq, Repr

namespace RuleSpec

def fieldNames : List String :=
  ["id", "shortdesc", "description", "severity", "tags", "version_added", "pattern", "scope",
    "message", "unjinja"]

def ofFields? (fields : List (String × Toml)) : Option RuleSpec :=
  if fields.all fun f => fieldNames.contains f.1 then do
    return {
      id := ← Toml.field? fields "id" Toml.text? none
      summary := ← Toml.field? fields "shortdesc" Toml.text? none
      description := ← Toml.field? fields "description" Toml.text? (some "")
      severity := ← Toml.field? fields "severity" Toml.text? (some "MEDIUM")
      tags := ← Toml.field? fields "tags" Toml.texts? (some [])
      versionAdded := ← Toml.field? fields "version_added" (fun v => (Toml.text? v).map some) (some none)
      pattern := ← Toml.field? fields "pattern" Toml.text? none
      scope := ← Toml.field? fields "scope" Toml.text? (some "line")
      message := ← Toml.field? fields "message" (fun v => (Toml.text? v).map some) (some none)
      hidesExpressions := ← Toml.field? fields "unjinja" Toml.truth? (some false) }
  else none

/-- A rule is written as a table, or as a list of its fields in order. -/
def ofToml? : Toml → Option RuleSpec
  | .table fields => ofFields? fields
  | .array values => ofFields? (fieldNames.zip values)
  | _ => none

end RuleSpec

inductive RuleError where
  | badId (index : Nat) (id : String)
  | emptySummary (id : String)
  | unknownSeverity (id value : String)
  | unknownScope (id value : String)
  | hiddenInText (id : String)
  | badPattern (id : String) (fault : Regex.Fault)
  | repeatedId (id : String)
  deriving DecidableEq, Repr

namespace RuleError

def context : RuleError → String
  | badId index _ => "rule[" ++ toString index ++ "].id"
  | emptySummary id => "rule " ++ id ++ ".shortdesc"
  | unknownSeverity id _ => "rule " ++ id ++ ".severity"
  | unknownScope id _ => "rule " ++ id ++ ".scope"
  | hiddenInText id => "rule " ++ id ++ ".unjinja"
  | badPattern id _ => "rule " ++ id ++ ".pattern"
  | repeatedId id => "rule " ++ id

def message (e : RuleError) : String :=
  match e with
  | badId _ id => e.context ++ ": rule id must be digits, got `" ++ id ++ "`"
  | emptySummary _ => e.context ++ ": must not be empty"
  | unknownSeverity _ value =>
    e.context ++ ": unknown severity `" ++ value ++
      "`, expected: INFO, VERY_LOW, LOW, MEDIUM, HIGH, VERY_HIGH"
  | unknownScope _ value => e.context ++ ": unknown scope `" ++ value ++ "`, expected: line, text"
  | hiddenInText _ => e.context ++ ": only supported for line scope"
  | badPattern _ _ => e.context ++ ": invalid pattern"
  | repeatedId id => "duplicate rule id `" ++ id ++ "`"

end RuleError

def scopeOf? (name : String) : Option Scope :=
  if name = "line" then some .line else if name = "text" then some .text else none

namespace RuleSpec

def toRule (index : Nat) (spec : RuleSpec) : Except RuleError PatternRule :=
  if spec.id.isEmpty || !spec.id.toList.all Char.isDigit then .error (.badId index spec.id)
  else if (Text.trim spec.summary.toList).isEmpty then .error (.emptySummary spec.id)
  else
    match Severity.parse? spec.severity with
    | none => .error (.unknownSeverity spec.id spec.severity)
    | some severity =>
      match scopeOf? spec.scope with
      | none => .error (.unknownScope spec.id spec.scope)
      | some scope =>
        if spec.hidesExpressions && scope = .text then .error (.hiddenInText spec.id)
        else
          match Regex.compile spec.pattern with
          | .error fault => .error (.badPattern spec.id fault)
          | .ok regex => .ok {
              id := spec.id
              summary := spec.summary
              description := spec.description
              severity := severity
              tags := spec.tags
              versionAdded := spec.versionAdded
              regex := regex
              scope := scope
              message := spec.message
              hidesExpressions := spec.hidesExpressions }

/-- The rules of some specifications from place `index` on; `seen` holds the ids before them. -/
def rulesFrom (index : Nat) (seen : List String) : List RuleSpec → Except RuleError (List PatternRule)
  | [] => .ok []
  | spec :: specs =>
    match spec.toRule index with
    | .error e => .error e
    | .ok rule =>
      if seen.contains rule.id then .error (.repeatedId rule.id)
      else
        match rulesFrom (index + 1) (rule.id :: seen) specs with
        | .ok rules => .ok (rule :: rules)
        | .error e => .error e

def rules (specs : List RuleSpec) : Except RuleError (List PatternRule) := rulesFrom 0 [] specs

end RuleSpec

inductive RuleFileError where
  | malformed
  | rule (error : RuleError)
  deriving DecidableEq, Repr

def RuleFileError.message : RuleFileError → String
  | malformed => "TOML parse error"
  | rule e => e.message

namespace RuleFile

def specs? (text : String) : Option (List RuleSpec) := do
  let members ← Toml.parse? text
  match members.find? fun m => m.1 = "rule" with
  | none => return []
  | some (_, .array items) => items.mapM RuleSpec.ofToml?
  | some _ => none

def parse (text : String) : Except RuleFileError (List Rule) :=
  match specs? text with
  | none => .error .malformed
  | some specs =>
    match RuleSpec.rules specs with
    | .ok rules => .ok (rules.map PatternRule.toRule)
    | .error e => .error (.rule e)

end RuleFile

end StateLint
