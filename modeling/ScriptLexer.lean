import ScriptLexer.Text.Alphabetic
import ScriptLexer.Text.Numeral
import ScriptLexer.Text.Blank
import ScriptLexer.Text.Quoted
import ScriptLexer.Text.TerminalEscape
import ScriptLexer.Text.Lines
import ScriptLexer.Text.Delimited
import ScriptLexer.Text.Utf8
import ScriptLexer.Number.Printed
import ScriptLexer.Token.Basic
import ScriptLexer.Source.Scan
import ScriptLexer.Cursor
import ScriptLexer.Reporting.Session
import ScriptLexer.Command.Run
import ScriptLexer.Main
import ScriptLexer.Proofs.Tiling
import ScriptLexer.Proofs.LongestMatch
import ScriptLexer.Proofs.Lines
import ScriptLexer.Proofs.Recovery
import ScriptLexer.Proofs.Joining
import ScriptLexer.Proofs.Trivia
import ScriptLexer.Proofs.WrittenTokens
import ScriptLexer.Proofs.LookAhead
import ScriptLexer.Proofs.Utf8
import ScriptLexer.Proofs.Printable
import ScriptLexer.Proofs.Blocks
import ScriptLexer.Proofs.Deliveries
import ScriptLexer.Proofs.ScriptMode
import ScriptLexer.Proofs.PromptMode
import ScriptLexer.Proofs.ModesAgree
import ScriptLexer.Proofs.ScannerCalls
import ScriptLexer.Proofs.CollectorHistories
import ScriptLexer.Proofs.TeeRouting
import ScriptLexer.Proofs.TokenLines
import ScriptLexer.Proofs.QuotedTexts
import ScriptLexer.Proofs.DecimalTexts
import ScriptLexer.Proofs.PrintedNumbers
import ScriptLexer.Proofs.BitPatterns
import ScriptLexer.Proofs.TokenTexts
import ScriptLexer.Proofs.EmbeddedStrings
import ScriptLexer.Proofs.LogRecords
import ScriptLexer.Proofs.Traces
import ScriptLexer.Proofs.VerboseRuns
import ScriptLexer.Proofs.NearestNumbers
import ScriptLexer.Proofs.NumberLiterals
import ScriptLexer.Proofs.ShortestDecimals
import ScriptLexer.Proofs.NumbersReadBack
import ScriptLexer.Proofs.Outsiders
import ScriptLexer.Proofs.ReservedWords
import ScriptLexer.Proofs.Reports
import ScriptLexer.Proofs.UnreadableScripts
import ScriptLexer.Proofs.CursorHistories
import ScriptLexer.Proofs.TotalScans
