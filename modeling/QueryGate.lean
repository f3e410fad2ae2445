import QueryGate.Main
import QueryGate.Session
import QueryGate.Tool
import QueryGate.Proofs.Text.Spacing
import QueryGate.Proofs.Sql.Lexing
import QueryGate.Proofs.Gate.Scan
import QueryGate.Proofs.Gate.Approval
import QueryGate.Proofs.Gate.Select
import QueryGate.Proofs.Sql.Readings
import QueryGate.Proofs.Gate.SingleQuery
import QueryGate.Proofs.Gate.Opening
import QueryGate.Proofs.Gate.Whitelist
import QueryGate.Proofs.Gate.Modes
import QueryGate.Proofs.Gate.Plain
import QueryGate.Proofs.Gate.Context
import QueryGate.Proofs.Gate.Layout
import QueryGate.Proofs.Gate.Executed
import QueryGate.Proofs.Gate.Remark
import QueryGate.Proofs.Pattern.Language
import QueryGate.Proofs.Pattern.Readings
import QueryGate.Proofs.Pattern.Grammar
import QueryGate.Proofs.Pattern.Formation
import QueryGate.Proofs.Pattern.Lexicons
import QueryGate.Proofs.Pattern.Quoting
import QueryGate.Proofs.Gate.DefaultShapes
import QueryGate.Proofs.Gate.Listing
import QueryGate.Proofs.Gate.Tables
import QueryGate.Proofs.Gate.LetterCase
import QueryGate.Proofs.Session.History
import QueryGate.Proofs.Gate.Bytes
import QueryGate.Proofs.Gate.Construction
import QueryGate.Proofs.Session.Drafts
import QueryGate.Proofs.Tool.History
import QueryGate.Proofs.Text.LineEnds
import QueryGate.Proofs.CommandLine.Terminal
import QueryGate.Proofs.CommandLine.Reasons
import QueryGate.Proofs.CommandLine.Options
import QueryGate.Proofs.CommandLine.Verdicts
import QueryGate.Proofs.Text.Occurrences
import QueryGate.Proofs.Text.Padding
import QueryGate.Proofs.Sql.Padding
import QueryGate.Proofs.Gate.Leftmost
import QueryGate.Proofs.Gate.Grounds
import QueryGate.Proofs.Gate.Padding
import QueryGate.Proofs.Gate.Wordless
import QueryGate.Proofs.Sql.Boundaries
import QueryGate.Proofs.Sql.Stripping
import QueryGate.Proofs.Gate.FirstWord
import QueryGate.Proofs.Gate.Coverage
