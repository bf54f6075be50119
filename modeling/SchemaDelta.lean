import SchemaDelta.Buckets
import SchemaDelta.CommandLine
import SchemaDelta.CommandLine.Arguments
import SchemaDelta.CommandLine.Style
import SchemaDelta.CommandLine.Summary
import SchemaDelta.Comparison
import SchemaDelta.Config
import SchemaDelta.Config.Data
import SchemaDelta.Container
import SchemaDelta.Criterion
import SchemaDelta.DataType
import SchemaDelta.Decimal
import SchemaDelta.Dialect
import SchemaDelta.Document
import SchemaDelta.Document.Json
import SchemaDelta.Document.Resolve
import SchemaDelta.Double
import SchemaDelta.Double.Text
import SchemaDelta.Field
import SchemaDelta.FileText
import SchemaDelta.Findings
import SchemaDelta.Json
import SchemaDelta.Json.Reader
import SchemaDelta.Json.Record
import SchemaDelta.Json.Writer
import SchemaDelta.Keyed
import SchemaDelta.Kind
import SchemaDelta.Ledger
import SchemaDelta.Main
import SchemaDelta.Number
import SchemaDelta.Object
import SchemaDelta.Object.Attribute
import SchemaDelta.Object.Content
import SchemaDelta.Object.Instance
import SchemaDelta.Policy
import SchemaDelta.Proofs.Account
import SchemaDelta.Proofs.Alike
import SchemaDelta.Proofs.Arranged
import SchemaDelta.Proofs.Ascii
import SchemaDelta.Proofs.BothWays
import SchemaDelta.Proofs.Buckets
import SchemaDelta.Proofs.Calls
import SchemaDelta.Proofs.Canonical
import SchemaDelta.Proofs.Classes
import SchemaDelta.Proofs.ColumnTypes
import SchemaDelta.Proofs.ConfigText
import SchemaDelta.Proofs.ConfigTree
import SchemaDelta.Proofs.Copies
import SchemaDelta.Proofs.Criteria
import SchemaDelta.Proofs.Data
import SchemaDelta.Proofs.Differences
import SchemaDelta.Proofs.EitherSide
import SchemaDelta.Proofs.Exchange
import SchemaDelta.Proofs.Fallible
import SchemaDelta.Proofs.Fields
import SchemaDelta.Proofs.Filtering
import SchemaDelta.Proofs.Folding
import SchemaDelta.Proofs.HiddenKeys
import SchemaDelta.Proofs.Identity
import SchemaDelta.Proofs.JoinedNames
import SchemaDelta.Proofs.Keyed
import SchemaDelta.Proofs.Ledger
import SchemaDelta.Proofs.Lines
import SchemaDelta.Proofs.Linked
import SchemaDelta.Proofs.MatchedColumns
import SchemaDelta.Proofs.Matching
import SchemaDelta.Proofs.Meeting
import SchemaDelta.Proofs.Mirror
import SchemaDelta.Proofs.OneWay
import SchemaDelta.Proofs.Owners
import SchemaDelta.Proofs.Pairing
import SchemaDelta.Proofs.Plan
import SchemaDelta.Proofs.Qualified
import SchemaDelta.Proofs.Quoted
import SchemaDelta.Proofs.Recasting
import SchemaDelta.Proofs.References
import SchemaDelta.Proofs.Reflexive
import SchemaDelta.Proofs.Relaxing
import SchemaDelta.Proofs.Relocation
import SchemaDelta.Proofs.Renaming
import SchemaDelta.Proofs.Reordering
import SchemaDelta.Proofs.Reread
import SchemaDelta.Proofs.Resolved
import SchemaDelta.Proofs.Runs
import SchemaDelta.Proofs.Saved
import SchemaDelta.Proofs.Scan
import SchemaDelta.Proofs.SchemaNames
import SchemaDelta.Proofs.Sections
import SchemaDelta.Proofs.SerialTypes
import SchemaDelta.Proofs.SingleLevel
import SchemaDelta.Proofs.StandardForm
import SchemaDelta.Proofs.Suppression
import SchemaDelta.Proofs.Symmetry
import SchemaDelta.Proofs.TableNames
import SchemaDelta.Proofs.Totality
import SchemaDelta.Proofs.Trim
import SchemaDelta.Proofs.TwoLoads
import SchemaDelta.Proofs.TypeText
import SchemaDelta.Proofs.Unmentioned
import SchemaDelta.Proofs.Unordered
import SchemaDelta.Proofs.Written
import SchemaDelta.Report
import SchemaDelta.Rule
import SchemaDelta.Rule.Catalog
import SchemaDelta.Rule.Column
import SchemaDelta.Rule.ForeignKey
import SchemaDelta.Rule.Generic
import SchemaDelta.Rule.Index
import SchemaDelta.Rule.PrimaryKey
import SchemaDelta.Rule.Schema
import SchemaDelta.Rule.Table
import SchemaDelta.Rulebook
import SchemaDelta.Snapshot
import SchemaDelta.Source
import SchemaDelta.Text.Case
import SchemaDelta.Text.CaseData
import SchemaDelta.Text.Class
import SchemaDelta.Toml
import SchemaDelta.Toml.Draft
import SchemaDelta.Toml.Number
import SchemaDelta.Toml.Reader
import SchemaDelta.Toml.Text
import SchemaDelta.Toml.Writer
