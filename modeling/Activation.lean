import Activation.Bean
import Activation.Bean.Forest
import Activation.Bean.Query
import Activation.Bean.Registry
import Activation.Capabilities
import Activation.Catalog
import Activation.CommandLine
import Activation.CommandLine.Arguments
import Activation.CommandLine.Help
import Activation.CommandLine.Invocation
import Activation.CommandLine.Output
import Activation.Data
import Activation.Data.Printer
import Activation.Environment
import Activation.Environment.Query
import Activation.Environment.Source
import Activation.Environment.Variables
import Activation.Exclusion
import Activation.Failure
import Activation.Kind
import Activation.Main
import Activation.Manifest
import Activation.Message
import Activation.Metadata
import Activation.Order
import Activation.Order.Component
import Activation.Order.Hints
import Activation.Order.Prerequisites
import Activation.Order.Walk
import Activation.Outcome
import Activation.Prefilter
import Activation.Prefilter.ForkJoin
import Activation.Prefilter.Mode
import Activation.Proofs.Bean.Candidate
import Activation.Proofs.Bean.Groups
import Activation.Proofs.Bean.Monotone
import Activation.Proofs.Bean.Presence
import Activation.Proofs.Bean.Query
import Activation.Proofs.Bean.Registration
import Activation.Proofs.Environment
import Activation.Proofs.Environment.Query
import Activation.Proofs.Environment.Variables
import Activation.Proofs.Order.Arrangement
import Activation.Proofs.Order.Component
import Activation.Proofs.Order.Cycles
import Activation.Proofs.Order.Descent
import Activation.Proofs.Order.Hints
import Activation.Proofs.Order.Precedence
import Activation.Proofs.Order.Prerequisites
import Activation.Proofs.Order.Relocation
import Activation.Proofs.Order.Walk
import Activation.Proofs.Prefilter
import Activation.Proofs.Prefilter.Partition
import Activation.Proofs.PropertyText.Folding
import Activation.Proofs.PropertyText.Joining
import Activation.Proofs.PropertyText.Layout
import Activation.Proofs.PropertyText.Numbered
import Activation.Proofs.PropertyText.RoundTrip
import Activation.Proofs.Repetition
import Activation.Proofs.Resolution.Endings
import Activation.Proofs.Resolution.Evaluation
import Activation.Proofs.Resolution.Hiding
import Activation.Proofs.Resolution.Inquiry
import Activation.Proofs.Resolution.Locality
import Activation.Proofs.Resolution.Modes
import Activation.Proofs.Resolution.Notifications
import Activation.Proofs.Resolution.Pass
import Activation.Proofs.Resolution.Places
import Activation.Proofs.Resolution.Pruning
import Activation.Proofs.Resolution.Reporting
import Activation.Proofs.Resolution.Sessions
import Activation.Proofs.Resolution.Shortcuts
import Activation.Proofs.Resolution.Splitting
import Activation.Proofs.Sources
import Activation.Proofs.Symbol.Inquiry
import Activation.Proofs.Symbol.Memo
import Activation.Proofs.Tables
import Activation.Proofs.Text.Trimmed
import Activation.Proofs.Text.Written
import Activation.Proofs.Verdict
import Activation.Proofs.Verdict.CutOff
import Activation.Proofs.Written.Conditions
import Activation.Proofs.Written.Manifest
import Activation.PropertyText.Entry
import Activation.PropertyText.Escape
import Activation.PropertyText.Layout
import Activation.Report
import Activation.Resolution
import Activation.Resolution.Evaluation
import Activation.Resolution.Host
import Activation.Rule
import Activation.Rule.Verdict
import Activation.Settings
import Activation.Symbol
import Activation.Symbol.Memo
import Activation.Text.Blank
import Activation.Text.CaseTable
import Activation.Text.Casing
import Activation.Text.Digits
import Activation.Text.Items
import Activation.Text.Letters
import Activation.Text.Lines
import Activation.Toml
import Activation.Toml.Layout
import Activation.Toml.Moment
import Activation.Toml.Number
import Activation.Toml.Quoted
import Activation.Toml.Table
import Activation.Toml.Value
import Activation.UnitName
import Activation.Web
import Activation.Written.Conditions
import Activation.Written.Results
import Activation.Written.Units
