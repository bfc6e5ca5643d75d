import TextHygiene.Text.Basic
import TextHygiene.Text.Blank
import TextHygiene.Text.Digits
import TextHygiene.Text.Utf8
import TextHygiene.Unicode.Word
import TextHygiene.Unicode.Lowercase
import TextHygiene.Unicode.Folding
import TextHygiene.Inspection
import TextHygiene.Settings.Resolve
import TextHygiene.Path
import TextHygiene.Regex.Expr
import TextHygiene.Regex.Reader
import TextHygiene.Pattern
import TextHygiene.Journal
import TextHygiene.Tree.Edit
import TextHygiene.Selection
import TextHygiene.Report.Lines
import TextHygiene.Report.Document
import TextHygiene.Json.Reader
import TextHygiene.Config
import TextHygiene.CommandLine.Parser
import TextHygiene.Run
import TextHygiene.Program
import TextHygiene.Main
import TextHygiene.Proofs.Numbering
import TextHygiene.Proofs.Context
import TextHygiene.Proofs.Suppression
import TextHygiene.Proofs.Inspection
import TextHygiene.Proofs.Dict
import TextHygiene.Proofs.Stages
import TextHygiene.Proofs.Rule
import TextHygiene.Proofs.Lookup
import TextHygiene.Proofs.Walk
import TextHygiene.Proofs.Select
import TextHygiene.Proofs.Resolve
import TextHygiene.Proofs.Run
import TextHygiene.Proofs.Assignments
import TextHygiene.Proofs.Entries
import TextHygiene.Proofs.Toggles
import TextHygiene.Proofs.Accounted
import TextHygiene.Proofs.Alike
import TextHygiene.Proofs.Concatenation
import TextHygiene.Proofs.Grammar
import TextHygiene.Proofs.Failing
import TextHygiene.Proofs.Offence
import TextHygiene.Proofs.Once
import TextHygiene.Proofs.Selected
import TextHygiene.Proofs.Disabling
import TextHygiene.Proofs.Overlay
import TextHygiene.Proofs.Trimming
import TextHygiene.Proofs.Lowercase
import TextHygiene.Proofs.WellFormed
import TextHygiene.Proofs.Written
import TextHygiene.Proofs.Agreement
import TextHygiene.Proofs.Token
import TextHygiene.Proofs.SettingsWritten
import TextHygiene.Proofs.JsonRead
import TextHygiene.Proofs.Groups
import TextHygiene.Proofs.Document
import TextHygiene.Proofs.Relisted
import TextHygiene.Proofs.ListingOrder
import TextHygiene.Proofs.LineEndings
import TextHygiene.Proofs.Exemption
import TextHygiene.Proofs.Unordered
import TextHygiene.Proofs.Layers
import TextHygiene.Proofs.RuleByRule
import TextHygiene.Proofs.Gaps
import TextHygiene.Proofs.Influence
import TextHygiene.Proofs.Encoding
import TextHygiene.Proofs.FileText
import TextHygiene.Proofs.FinalNewline
import TextHygiene.Proofs.Layout
import TextHygiene.Proofs.PlainPattern
import TextHygiene.Proofs.Extensions
import TextHygiene.Proofs.Padding
import TextHygiene.Proofs.LineKinds
import TextHygiene.Proofs.FileName
import TextHygiene.Proofs.ReportLines
import TextHygiene.Proofs.Coloring
import TextHygiene.Proofs.Arguments
import TextHygiene.Proofs.Rejoining
