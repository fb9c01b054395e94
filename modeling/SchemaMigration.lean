import SchemaMigration.Backend.Basic
import SchemaMigration.Backend.Session
import SchemaMigration.Calendar.Civil
import SchemaMigration.Catalog.Basic
import SchemaMigration.Command.Basic
import SchemaMigration.Command.Kind
import SchemaMigration.Command.Reading
import SchemaMigration.CommandLine.Arguments
import SchemaMigration.CommandLine.EnvFile
import SchemaMigration.CommandLine.Run
import SchemaMigration.Entries
import SchemaMigration.Error
import SchemaMigration.Files.Path
import SchemaMigration.Files.Tree
import SchemaMigration.Host.Basic
import SchemaMigration.Host.Direction
import SchemaMigration.Host.Domain
import SchemaMigration.Host.Ipv4
import SchemaMigration.Host.Ipv6
import SchemaMigration.Host.Joiner
import SchemaMigration.Host.Label
import SchemaMigration.Host.Mapping
import SchemaMigration.Host.Punycode
import SchemaMigration.Introspect
import SchemaMigration.Json.Token
import SchemaMigration.Json.Value
import SchemaMigration.Main
import SchemaMigration.Migration.Directory
import SchemaMigration.Migration.Error
import SchemaMigration.Migration.File
import SchemaMigration.Migration.FileName
import SchemaMigration.Migrator
import SchemaMigration.Number.Binary
import SchemaMigration.Number.DecimalText
import SchemaMigration.Number.Layout
import SchemaMigration.Number.Power
import SchemaMigration.Number.Shortest
import SchemaMigration.Operation.Basic
import SchemaMigration.Operation.Files
import SchemaMigration.Operation.Status
import SchemaMigration.Operation.Up
import SchemaMigration.Plan
import SchemaMigration.Run
import SchemaMigration.Server.Basic
import SchemaMigration.Server.Catalog
import SchemaMigration.Settings.Basic
import SchemaMigration.Settings.KeyPath
import SchemaMigration.Settings.Load
import SchemaMigration.Settings.Reading
import SchemaMigration.Settings.Source
import SchemaMigration.Settings.Tree
import SchemaMigration.Sql.Identifier
import SchemaMigration.Sql.Literal
import SchemaMigration.Sql.Statement
import SchemaMigration.Text.Alphanumeric
import SchemaMigration.Text.Blank
import SchemaMigration.Text.CodePoints
import SchemaMigration.Text.Combining
import SchemaMigration.Text.Composite
import SchemaMigration.Text.Composition
import SchemaMigration.Text.DecimalDigit
import SchemaMigration.Text.Digits
import SchemaMigration.Text.Hexadecimal
import SchemaMigration.Text.Join
import SchemaMigration.Text.Utf8
import SchemaMigration.Toml.Document
import SchemaMigration.Toml.Equality
import SchemaMigration.Toml.Scan.Basic
import SchemaMigration.Toml.Scan.Datetime
import SchemaMigration.Toml.Scan.Number
import SchemaMigration.Toml.Scan.Quoted
import SchemaMigration.Toml.Text
import SchemaMigration.Toml.Tree
import SchemaMigration.Toml.Value
import SchemaMigration.Version.Basic
import SchemaMigration.Version.Table
import SchemaMigration.Wire.Cell
import SchemaMigration.Wire.Exchange
import SchemaMigration.Wire.Placeholder
import SchemaMigration.Proofs.Session
import SchemaMigration.Proofs.Extension
import SchemaMigration.Proofs.Trace
import SchemaMigration.Proofs.Phases
import SchemaMigration.Proofs.Steps
import SchemaMigration.Proofs.Contribution
import SchemaMigration.Proofs.Course
import SchemaMigration.Proofs.BackendFrame
import SchemaMigration.Proofs.CatalogRun
import SchemaMigration.Proofs.KeyStatements
import SchemaMigration.Proofs.ByteOrder
import SchemaMigration.Proofs.CurrentVersion
import SchemaMigration.Proofs.PreExecution
import SchemaMigration.Proofs.ForeignKeys
import SchemaMigration.Proofs.MigrationOrder
import SchemaMigration.Proofs.UpCalls
import SchemaMigration.Proofs.ValueLists
import SchemaMigration.Proofs.Spelling
import SchemaMigration.Proofs.Grammar
import SchemaMigration.Proofs.Refusals
import SchemaMigration.Proofs.CanonicalMap
import SchemaMigration.Proofs.VersionRows
import SchemaMigration.Proofs.Rerun
import SchemaMigration.Proofs.LoadedFiles
import SchemaMigration.Proofs.OfflineCheck
import SchemaMigration.Proofs.FileTree
import SchemaMigration.Proofs.Stamps
import SchemaMigration.Proofs.NewMigration
import SchemaMigration.Proofs.QuotedNames
import SchemaMigration.Proofs.Prepared
import SchemaMigration.Proofs.DryRun
import SchemaMigration.Proofs.PrepareAgain
import SchemaMigration.Proofs.Discovery
import SchemaMigration.Proofs.Moments
import SchemaMigration.Proofs.Gregorian
import SchemaMigration.Proofs.PaddedNumbers
import SchemaMigration.Proofs.StampOrder
import SchemaMigration.Proofs.VersionAdvance
import SchemaMigration.Proofs.KeyHistory
import SchemaMigration.Proofs.DatabaseNames
import SchemaMigration.Proofs.CommandSets
import SchemaMigration.Proofs.PendingMigrations
import SchemaMigration.Proofs.RunLog
import SchemaMigration.Proofs.SettingsTree
import SchemaMigration.Proofs.SettingsLayers
import SchemaMigration.Proofs.FileNames
import SchemaMigration.Proofs.QuotedIdentifiers
