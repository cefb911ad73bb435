import LexScan.CommandLine.Usage
import LexScan.Cursor.Call
import LexScan.Cursor.Lemmas
import LexScan.LineBreak.Name
import LexScan.Main
import LexScan.OffsetScan
import LexScan.Pattern.Reader
import LexScan.Program
import LexScan.Report.Print
import LexScan.Source
import LexScan.Proofs.ByteCursor
import LexScan.Proofs.ByteCursor.Simulation
import LexScan.Proofs.CursorRun
import LexScan.Proofs.Backtracking
import LexScan.Proofs.Lines
import LexScan.Proofs.NumberGrammar
import LexScan.Proofs.NumberMatches
import LexScan.Proofs.OffsetAgreement
import LexScan.Proofs.LinePartition
import LexScan.Proofs.TokenRule
import LexScan.Proofs.Segments
import LexScan.Proofs.ReportOfLines
import LexScan.Proofs.ReportAdditivity
import LexScan.Proofs.Positions
import LexScan.Proofs.Accounting
import LexScan.Proofs.FreeSlashes
import LexScan.Proofs.ItemUses
import LexScan.Proofs.Occurrences
import LexScan.Proofs.Spelling
import LexScan.Proofs.Utf8
import LexScan.Proofs.Utf16
import LexScan.Proofs.UnicodeDecoding
import LexScan.Proofs.FilePaths
import LexScan.Proofs.ExpandedPatterns
import LexScan.Proofs.AddedFile
import LexScan.Proofs.FileContents
import LexScan.Proofs.WrittenLog
import LexScan.Proofs.Runs
import LexScan.Proofs.RefusedArguments
import LexScan.Proofs.Diagnostics
import LexScan.Proofs.FilesFound
import LexScan.Proofs.LinesAndColumns
import LexScan.Proofs.BlankSeparation
import LexScan.Proofs.LineRefinement
import LexScan.Proofs.FixedWidth
import LexScan.Proofs.Literals
import LexScan.Proofs.MalformedBytes
import LexScan.Proofs.OffsetArithmetic
import LexScan.Proofs.FirstOccurrence
import LexScan.Proofs.FirstTerminator
import LexScan.Proofs.MaximalRuns
import LexScan.Proofs.Anchoring
import LexScan.Proofs.Anchoring.Tokens
import LexScan.Proofs.Anchoring.Nesting
import LexScan.Proofs.Anchoring.Rows
import LexScan.Proofs.UsageColumns
import LexScan.Proofs.WrappedLines
import LexScan.Proofs.WrappedWords
import LexScan.Proofs.UsageAlignment
import LexScan.Proofs.Totals
import LexScan.Proofs.PrintedReports
import LexScan.Proofs.JsonGrammar
import LexScan.Proofs.JsonUnambiguous
import LexScan.Proofs.JsonReports
import LexScan.Proofs.PositionOrder
