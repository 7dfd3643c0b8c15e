import StateLint.CharSet
import StateLint.CheckedFiles
import StateLint.CommandLine
import StateLint.Config
import StateLint.ConfigFile
import StateLint.ConfigFile.Toml
import StateLint.ConfigFile.Yaml
import StateLint.ConfigSource
import StateLint.Decimal
import StateLint.FileSystem
import StateLint.FileSystem.Tree
import StateLint.Finding
import StateLint.Glob
import StateLint.Glob.Parser
import StateLint.Jinja
import StateLint.Json
import StateLint.Keys
import StateLint.Lint
import StateLint.Log
import StateLint.Options
import StateLint.Path
import StateLint.PathPattern
import StateLint.PathPatternSet
import StateLint.Program
import StateLint.Proofs.BlankText
import StateLint.Proofs.ByteOrder
import StateLint.Proofs.ColorSequences
import StateLint.Proofs.CountedInputs
import StateLint.Proofs.ExitCodes
import StateLint.Proofs.FewerRules
import StateLint.Proofs.FileKeys
import StateLint.Proofs.FindingOrigin
import StateLint.Proofs.FirstComers
import StateLint.Proofs.FirstFailure
import StateLint.Proofs.HiddenExpressions
import StateLint.Proofs.IgnoreSections
import StateLint.Proofs.IgnoredDirectories
import StateLint.Proofs.JsonGrammar
import StateLint.Proofs.KeptLines
import StateLint.Proofs.KeyEntries
import StateLint.Proofs.LineEndings
import StateLint.Proofs.LineFindings
import StateLint.Proofs.Location
import StateLint.Proofs.LongLines
import StateLint.Proofs.MatchSpans
import StateLint.Proofs.OrderIndependence
import StateLint.Proofs.PathIndependence
import StateLint.Proofs.PathSpellings
import StateLint.Proofs.PatternFaults
import StateLint.Proofs.PatternLines
import StateLint.Proofs.PatternVerdicts
import StateLint.Proofs.ProvidedRules
import StateLint.Proofs.RegistryBuild
import StateLint.Proofs.RegistryCalls
import StateLint.Proofs.RegistryGrowth
import StateLint.Proofs.ReportCalls
import StateLint.Proofs.ReportDecoding
import StateLint.Proofs.ReportOrder
import StateLint.Proofs.RuleDirectoryFaults
import StateLint.Proofs.RuleFileFaults
import StateLint.Proofs.RuleFilePaths
import StateLint.Proofs.RuleListing
import StateLint.Proofs.RuleSelection
import StateLint.Proofs.SharedClaims
import StateLint.Proofs.SingleReport
import StateLint.Proofs.SkippedRules
import StateLint.Proofs.TagListing
import StateLint.Proofs.TextPieces
import StateLint.Regex
import StateLint.Regex.Class
import StateLint.Regex.Escape
import StateLint.Regex.Expr
import StateLint.Regex.Fault
import StateLint.Regex.Flags
import StateLint.Regex.Parser
import StateLint.Regex.Program
import StateLint.Regex.Search
import StateLint.Registry
import StateLint.Registry.Build
import StateLint.Report
import StateLint.Rule
import StateLint.Rule.Builtin
import StateLint.Rule.Pattern
import StateLint.RuleDirectory
import StateLint.RuleFile
import StateLint.Severity
import StateLint.SkipDirective
import StateLint.StateFile
import StateLint.Text.Blank
import StateLint.Text.Quoted
import StateLint.Text.Split
import StateLint.Toml
import StateLint.Toml.Fields
import StateLint.Toml.Parser
import StateLint.Unicode.CaseFold
import StateLint.Unicode.Category
import StateLint.Unicode.Property
import StateLint.Unicode.Script
import StateLint.Yaml
import StateLint.Yaml.Cursor
import StateLint.Yaml.Fields
import StateLint.Yaml.Node
import StateLint.Yaml.Parser
import StateLint.Yaml.Scalar
import StateLint.Yaml.ScalarText
import StateLint.Yaml.Token
import StateLint.Yaml.Token.Scan
