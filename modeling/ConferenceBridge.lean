import ConferenceBridge.Conference
import ConferenceBridge.Conference.Bridge
import ConferenceBridge.Conference.Channel
import ConferenceBridge.Conference.ChannelId
import ConferenceBridge.Conference.Describing
import ConferenceBridge.Conference.Endpoint
import ConferenceBridge.Conference.Failure
import ConferenceBridge.Declaration
import ConferenceBridge.Declaration.Summary
import ConferenceBridge.Description
import ConferenceBridge.Double
import ConferenceBridge.Entries
import ConferenceBridge.Error
import ConferenceBridge.Json.Basic
import ConferenceBridge.Json.Reader
import ConferenceBridge.Json.Writer
import ConferenceBridge.Logging.Format
import ConferenceBridge.Logging.Level
import ConferenceBridge.Logging.Line
import ConferenceBridge.Logging.Logger
import ConferenceBridge.MachineWord
import ConferenceBridge.MediaType
import ConferenceBridge.Notice
import ConferenceBridge.Octo.History
import ConferenceBridge.Octo.Reconciliation
import ConferenceBridge.Octo.Tentacle
import ConferenceBridge.PayloadType
import ConferenceBridge.PayloadType.Building
import ConferenceBridge.PayloadType.Key
import ConferenceBridge.Proofs.Conference.Agreement
import ConferenceBridge.Proofs.Conference.Attachment
import ConferenceBridge.Proofs.Conference.Attendance
import ConferenceBridge.Proofs.Conference.Batch
import ConferenceBridge.Proofs.Conference.Records
import ConferenceBridge.Proofs.Conference.Representation
import ConferenceBridge.Proofs.Conference.Requests
import ConferenceBridge.Proofs.Conference.Separation
import ConferenceBridge.Proofs.Conference.Updates
import ConferenceBridge.Proofs.Declaration
import ConferenceBridge.Proofs.Declaration.Summary
import ConferenceBridge.Proofs.Description
import ConferenceBridge.Proofs.Json.Grammar
import ConferenceBridge.Proofs.Json.Lines
import ConferenceBridge.Proofs.Json.Reading
import ConferenceBridge.Proofs.Logging.Configuration
import ConferenceBridge.Proofs.Logging.Directive
import ConferenceBridge.Proofs.Octo.Added
import ConferenceBridge.Proofs.Octo.FromCalls
import ConferenceBridge.Proofs.Octo.Locality
import ConferenceBridge.Proofs.Octo.Merging
import ConferenceBridge.Proofs.Octo.Numbers
import ConferenceBridge.Proofs.Octo.Repetition
import ConferenceBridge.Proofs.Octo.Reports
import ConferenceBridge.Proofs.Octo.Sequence
import ConferenceBridge.Proofs.Octo.Teardown
import ConferenceBridge.Proofs.Octo.Trace
import ConferenceBridge.Proofs.Octo.WellFormed
import ConferenceBridge.Proofs.PayloadType.Acceptance
import ConferenceBridge.Proofs.PayloadType.Building
import ConferenceBridge.Proofs.PayloadType.Key
import ConferenceBridge.Proofs.PayloadType.Rebuilding
import ConferenceBridge.Proofs.RecordKind.Faults
import ConferenceBridge.Proofs.RecordKind.Outline
import ConferenceBridge.Proofs.RecordKind.Place
import ConferenceBridge.Proofs.RecordKind.Stability
import ConferenceBridge.Proofs.Registry
import ConferenceBridge.Proofs.RelaySet
import ConferenceBridge.Proofs.Schema.Ensures
import ConferenceBridge.Proofs.Schema.Faults
import ConferenceBridge.Proofs.Searching
import ConferenceBridge.Proofs.Table
import ConferenceBridge.Proofs.Text.Ascii
import ConferenceBridge.Proofs.Text.Casing
import ConferenceBridge.Proofs.Text.Numeral
import ConferenceBridge.Proofs.Text.NumeralGrammar
import ConferenceBridge.Proofs.Text.Quoted
import ConferenceBridge.Proofs.Text.Trim
import ConferenceBridge.RecordKind
import ConferenceBridge.Registry
import ConferenceBridge.RelaySet
import ConferenceBridge.Schema.Basic
import ConferenceBridge.Schema.Checked
import ConferenceBridge.Schema.Fault
import ConferenceBridge.Schema.Record
import ConferenceBridge.Settings
import ConferenceBridge.Settings.File
import ConferenceBridge.Settings.Reference
import ConferenceBridge.Settings.Store
import ConferenceBridge.Table
import ConferenceBridge.Text.Blank
import ConferenceBridge.Text.Casing
import ConferenceBridge.Text.Casing.Context
import ConferenceBridge.Text.Casing.Runs
import ConferenceBridge.Text.CodeRange
import ConferenceBridge.Text.Digit
import ConferenceBridge.Text.Numeral
import ConferenceBridge.Text.Numeral.Lenient
import ConferenceBridge.Text.Places
import ConferenceBridge.Text.Printable
import ConferenceBridge.Text.Quoted
import ConferenceBridge.Text.Word
import ConferenceBridge.Validation
