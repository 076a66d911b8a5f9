import ServiceLinker.Text.Blank
import ServiceLinker.Text.Alphanumeric
import ServiceLinker.Text.Quoted
import ServiceLinker.Decimal.Shortest
import ServiceLinker.Json.Printer
import ServiceLinker.Json.Syntax
import ServiceLinker.Log
import ServiceLinker.Report.Text
import ServiceLinker.Json.Format
import ServiceLinker.Report.Document
import ServiceLinker.Yaml.Node.Compose
import ServiceLinker.Yaml.Format
import ServiceLinker.Yaml.Printer
import ServiceLinker.Path
import ServiceLinker.Pattern
import ServiceLinker.FileSystem.Basic
import ServiceLinker.Config.Basic
import ServiceLinker.Linkage.Basic
import ServiceLinker.FileSystem.Table
import ServiceLinker.FileSystem.Tree
import ServiceLinker.Timestamp
import ServiceLinker.Cassette.Basic
import ServiceLinker.Cassette.Recording
import ServiceLinker.Cassette.Replay
import ServiceLinker.FileSystem.Trace
import ServiceLinker.Bundle.Basic
import ServiceLinker.Bundle.Collection
import ServiceLinker.Bundle.Writing
import ServiceLinker.Cassette.File
import ServiceLinker.Command.Basic
import ServiceLinker.Command.Session
import ServiceLinker.CommandLine.Basic
import ServiceLinker.CommandLine.Reading
import ServiceLinker.EnvironmentFile
import ServiceLinker.Program
import ServiceLinker.Main
import ServiceLinker.Proofs.ReplaySimulation
import ServiceLinker.Proofs.DocumentReading
import ServiceLinker.Proofs.CassetteReading
import ServiceLinker.Proofs.RecordReplay
import ServiceLinker.Proofs.JsonReading
import ServiceLinker.Proofs.ReportReading
import ServiceLinker.Proofs.LinkMeaning
import ServiceLinker.Proofs.LinkOutcomes
import ServiceLinker.Proofs.TreeAccounting
import ServiceLinker.Proofs.CompleteReports
import ServiceLinker.Proofs.PathComponents
import ServiceLinker.Proofs.FileRoles
import ServiceLinker.Proofs.BundleNames
import ServiceLinker.Proofs.BundleWriting
import ServiceLinker.Proofs.NameSearch
import ServiceLinker.Proofs.SteadyReads
import ServiceLinker.Proofs.HandOff
import ServiceLinker.Proofs.PolicyComparison
import ServiceLinker.Proofs.OrderIndependence
import ServiceLinker.Proofs.DescriptorIndependence
import ServiceLinker.Proofs.LaterDeclarations
import ServiceLinker.Proofs.IndexBuilding
import ServiceLinker.Proofs.SettingsLayers
import ServiceLinker.Proofs.ReportedMessages
import ServiceLinker.Proofs.FileAccess
import ServiceLinker.Proofs.ReplayStreams
import ServiceLinker.Proofs.TreePlaces
import ServiceLinker.Proofs.TreeLookup
import ServiceLinker.Proofs.TreeListing
import ServiceLinker.Proofs.ScriptRequests
import ServiceLinker.Proofs.WalkOrder
import ServiceLinker.Proofs.BundleNaming
import ServiceLinker.Proofs.BundleConfinement
import ServiceLinker.Proofs.TreeWriting
import ServiceLinker.Proofs.RepeatedWriting
import ServiceLinker.Proofs.RepeatedBundling
import ServiceLinker.Proofs.ScriptOutcomes
import ServiceLinker.Proofs.RefusedWrites
import ServiceLinker.Proofs.BundleAccounting
import ServiceLinker.Proofs.RecordDiagnostics
import ServiceLinker.Proofs.Rerecording
import ServiceLinker.Proofs.PatternMatches
import ServiceLinker.Proofs.DescriptorParsing
import ServiceLinker.Proofs.PatternExpressions
import ServiceLinker.Proofs.ReplayDivergence
