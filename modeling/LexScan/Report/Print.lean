import LexScan.Json
import LexScan.Report
import LexScan.Terminal

/-!
# Printed reports

Reports are printed as one line each, with a line for their total if there is
more than one, or as a JSON array.
-/

namespace LexScan.Report

/-- The figures of a report with their labels, in printing order. -/
def figures (c : Counts) : List (Text × Nat) :=
  [("lines".toList, c.lines), ("blank".toList, c.blankLines), ("words".toList, c.words),
    ("numbers".toList, c.numbers), ("strings".toList, c.strings),
    ("comments".toList, c.comments), ("symbols".toList, c.symbols),
    ("longest".toList, c.longestLine)]

/-- One figure and its label. -/
def printFigure (figure : Text × Nat) : Styled :=
  [.color .highlight, .text ([' '] ++ Text.ofNat figure.2), .color .secondary,
    .text ([' '] ++ figure.1)]

def printLine (r : Report) : Styled :=
  [.color .primary, .text (r.name ++ [':'])] ++ (figures r.counts).flatMap printFigure
    ++ [.reset, .text ['\n']]

/-- The name of the line that adds up all others. -/
def totalName : Text := "total".toList

/-- One line for each report, and one for the total of several. -/
def print (reports : List Report) : Styled :=
  reports.flatMap printLine
    ++ if 1 < reports.length then printLine (total totalName reports) else []

def toJson (r : Report) : JsonValue :=
  .object [("blankLines".toList, .number r.counts.blankLines),
    ("comments".toList, .number r.counts.comments),
    ("lines".toList, .number r.counts.lines),
    ("longestLine".toList, .number r.counts.longestLine),
    ("name".toList, .string r.name),
    ("numbers".toList, .number r.counts.numbers),
    ("strings".toList, .number r.counts.strings),
    ("symbols".toList, .number r.counts.symbols),
    ("words".toList, .number r.counts.words)]

def listToJson (reports : List Report) : JsonValue := .array (reports.map toJson)

end LexScan.Report
