import HdlLint.Child.Run
import HdlLint.Diagnostic.Transcript
import HdlLint.Invocation.Build
import HdlLint.Session.Basic
import HdlLint.Settings.Check
import HdlLint.Value.Merge
import HdlLint.Settings.Load
import HdlLint.CommandLine.Basic
import HdlLint.CommandLine.Lint
import HdlLint.CommandLine.Run
import HdlLint.Main
import HdlLint.Proofs.Diagnostic.LineGrammar
import HdlLint.Proofs.Diagnostic.LineTail
import HdlLint.Proofs.Diagnostic.LongestPath
import HdlLint.Proofs.Diagnostic.HeaderReading
import HdlLint.Proofs.Diagnostic.LeftmostLine
import HdlLint.Proofs.Text.JoinedLines
import HdlLint.Proofs.Text.DecimalLiteral
import HdlLint.Proofs.Diagnostic.Rendering
import HdlLint.Proofs.Diagnostic.RoundTrip
import HdlLint.Proofs.Store.Calls
import HdlLint.Proofs.Store.QuietListeners
import HdlLint.Proofs.Diagnostic.GroupedSet
import HdlLint.Proofs.Session.RunOutcome
import HdlLint.Proofs.Session.Steps
import HdlLint.Proofs.Session.Isolation
import HdlLint.Proofs.Session.Content
import HdlLint.Proofs.Session.Interleaving
import HdlLint.Proofs.Store.Cascade
import HdlLint.Proofs.Store.PublishCascade
import HdlLint.Proofs.Store.ChangeOrder
import HdlLint.Proofs.Session.Deliveries
import HdlLint.Proofs.Session.LintResult
import HdlLint.Proofs.Diagnostic.FileGroups
import HdlLint.Proofs.Session.ErrorResults
import HdlLint.Proofs.Invocation.ReturnedPath
import HdlLint.Proofs.Session.ClosedDocument
import HdlLint.Proofs.Diagnostic.EncounterOrder
import HdlLint.Proofs.Diagnostic.LineAccount
import HdlLint.Proofs.Diagnostic.WellFormed
import HdlLint.Proofs.Session.StoredDiagnostics
import HdlLint.Proofs.Value.TextKeys
import HdlLint.Proofs.Value.MergedMaps
import HdlLint.Proofs.Value.DistinctKeys
import HdlLint.Proofs.Yaml.MappingKeys
import HdlLint.Proofs.Value.Equality
import HdlLint.Proofs.Text.SmallForms
import HdlLint.Proofs.Settings.Variables
import HdlLint.Proofs.Settings.Sources
import HdlLint.Proofs.Settings.EachSetting
import HdlLint.Proofs.Settings.Precedence
import HdlLint.Proofs.Settings.LoadStages
import HdlLint.Proofs.Settings.CheckCrashes
import HdlLint.Proofs.Settings.UnreadableVariables
import HdlLint.Proofs.Settings.VariablesAcyclic
import HdlLint.Proofs.Settings.LoadCrashes
import HdlLint.Proofs.Text.SplitTexts
import HdlLint.Proofs.Diagnostic.JoinedTranscripts
import HdlLint.Proofs.Text.Utf8Characters
import HdlLint.Proofs.Child.ReplacedLine
import HdlLint.Proofs.Diagnostic.QuotedLocation
import HdlLint.Proofs.Report.ShownTables
import HdlLint.Proofs.Report.Tags
import HdlLint.Proofs.Report.ResultInWords
import HdlLint.Proofs.Settings.RunChanges
import HdlLint.Proofs.CommandLine.ProperUse
import HdlLint.Proofs.CommandLine.ExitCode
import HdlLint.Proofs.Path.Components
import HdlLint.Proofs.Path.AnchoredPaths
import HdlLint.Proofs.Diagnostic.ResolvedPath
import HdlLint.Proofs.Invocation.BuiltInvocation
import HdlLint.Proofs.Invocation.UnescapedWords
import HdlLint.Proofs.Invocation.QuotedArguments
import HdlLint.Proofs.Invocation.HelperAnswers
import HdlLint.Proofs.Invocation.TargetWord
import HdlLint.Proofs.Store.CalledListeners
import HdlLint.Proofs.Store.DeletedFile
import HdlLint.Proofs.Store.Subscriptions
import HdlLint.Proofs.Value.SameKeys
import HdlLint.Proofs.Value.NestedMaps
import HdlLint.Proofs.Value.MergedPaths
import HdlLint.Proofs.Settings.CheckedParts
import HdlLint.Proofs.Settings.TimeLimit
import HdlLint.Proofs.Text.StrippedTexts
import HdlLint.Proofs.Path.TidyPaths
import HdlLint.Proofs.Settings.CheckedAgain
import HdlLint.Proofs.Files.KeptFiles
import HdlLint.Proofs.Log.OpenedOutputs
import HdlLint.Proofs.Log.WrittenLines
import HdlLint.Diagnostic.HeldSets
import HdlLint.Proofs.Diagnostic.SetsInUse
import HdlLint.Proofs.Diagnostic.SameSets
import HdlLint.Proofs.Value.JsonStrings
import HdlLint.Proofs.Number.ShortestDigits
import HdlLint.Proofs.Value.JsonNumbers
import HdlLint.Proofs.Value.JsonRoundTrip
import HdlLint.Proofs.Diagnostic.LocatedNumbers
import HdlLint.Proofs.Log.EntryFields
import HdlLint.Proofs.Log.JsonOutputs
import HdlLint.Proofs.Report.ReportDocument
import HdlLint.Proofs.CommandLine.StandardOutput
import HdlLint.Proofs.CommandLine.JsonReport
import HdlLint.Proofs.Report.EmojiTable
import HdlLint.Proofs.Report.SeenTexts
import HdlLint.Proofs.Report.CellCounts
import HdlLint.Proofs.Report.FittingCells
import HdlLint.Proofs.Report.AlignedTables
import HdlLint.Proofs.Report.ShownLocations
import HdlLint.Proofs.Report.DiagnosticTable
import HdlLint.Proofs.Report.LaidOutMarks
import HdlLint.Proofs.Report.FaithfulTable
import HdlLint.Proofs.CommandLine.TableReport
import HdlLint.Proofs.Text.IntegerLiteral
import HdlLint.Proofs.Diagnostic.LocatedByLiterals
import HdlLint.Proofs.Text.LineSegments
import HdlLint.Proofs.Path.SlashedPaths
import HdlLint.Proofs.Invocation.IncludedFolder
