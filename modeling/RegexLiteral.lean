import RegexLiteral.Text
import RegexLiteral.CharSet
import RegexLiteral.Unicode.RangeTable
import RegexLiteral.Unicode.GeneralCategory
import RegexLiteral.Unicode.Script
import RegexLiteral.Unicode.ScriptExtension
import RegexLiteral.Unicode.BinaryProperty
import RegexLiteral.Unicode.Age
import RegexLiteral.Unicode.Boundary
import RegexLiteral.Unicode.CaseOrbit
import RegexLiteral.Literal.Segments
import RegexLiteral.Literal.Flags
import RegexLiteral.Literal.Layout
import RegexLiteral.Pattern.Ast
import RegexLiteral.Pattern.Cursor
import RegexLiteral.Pattern.Escape
import RegexLiteral.Pattern.Bracket
import RegexLiteral.Pattern.GroupHead
import RegexLiteral.Pattern.Reader
import RegexLiteral.Pattern.Excerpt
import RegexLiteral.Unicode.Property
import RegexLiteral.Unicode.CaseFold
import RegexLiteral.Pattern.Meaning
import RegexLiteral.Pattern.Search
import RegexLiteral.Pattern.Finder
import RegexLiteral.Pattern.Regex
import RegexLiteral.Engine.Session
import RegexLiteral.JsonText
import RegexLiteral.Diagnostic.Snippet
import RegexLiteral.Pattern.Count
import RegexLiteral.Proofs.Literal.Reading
import RegexLiteral.Proofs.Literal.Writing
import RegexLiteral.Proofs.Engine.Transparency
import RegexLiteral.Proofs.Pattern.Passing
import RegexLiteral.Proofs.Pattern.Readers
import RegexLiteral.Proofs.Pattern.Steps
import RegexLiteral.Proofs.Pattern.Groups
import RegexLiteral.Proofs.CaptureFields
import RegexLiteral.Proofs.Pattern.Findings
import RegexLiteral.Proofs.Literal.Classes
import RegexLiteral.Proofs.Literal.Ranges
import RegexLiteral.Proofs.Substituting
import RegexLiteral.Proofs.Literal.Anomalies
import RegexLiteral.Proofs.Literal.Compiling
import RegexLiteral.Proofs.Literal.EscapedDelimiters
import RegexLiteral.Proofs.Verbatim
import RegexLiteral.Proofs.Literal.Quoting
import RegexLiteral.Proofs.Pattern.PlainText
import RegexLiteral.Proofs.Pattern.Needle
import RegexLiteral.Proofs.PlainMatching
import RegexLiteral.Proofs.Engine.Requests
import RegexLiteral.Proofs.Engine.Holdings
import RegexLiteral.Proofs.Literal.Mending
import RegexLiteral.Proofs.Literal.Policies
import RegexLiteral.Proofs.Engine.Agreement
import RegexLiteral.Proofs.Recording
import RegexLiteral.Proofs.Pattern.GroupNames
import RegexLiteral.Proofs.CaptureRows
import RegexLiteral.Proofs.FirstMatch
import RegexLiteral.Proofs.Pattern.InStep
import RegexLiteral.Proofs.Pattern.BehindFlags
import RegexLiteral.Proofs.Pattern.MeaningFaults
import RegexLiteral.Proofs.FeatureCheck
import RegexLiteral.Proofs.Literal.FreeSpacing
import RegexLiteral.Proofs.Literal.NotedGroups
import RegexLiteral.Proofs.Literal.Stripped
import RegexLiteral.Proofs.Literal.Comments
import RegexLiteral.Proofs.Literal.LiveFlags
import RegexLiteral.Proofs.RecordingOrder
