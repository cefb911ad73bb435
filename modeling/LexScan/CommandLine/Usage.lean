import LexScan.CommandLine
import LexScan.Log
import LexScan.Terminal
import LexScan.Text.Wrapped

/-!
# Usage texts

The usage of a program lists its options in two columns: the names, with short
names before long ones, and the descriptions, wrapped to the width of the
terminal. The second column starts behind the widest name but never in the right
half of the terminal; names that reach into it have their description on the
next line. Widths of names are counted in bytes.
-/

namespace LexScan.CommandLine

/-- The columns of a usage text. -/
structure Columns where
  /-- Width of the widest short name. -/
  short : Nat
  /-- Width of the widest long name with its parameter. -/
  long : Nat
deriving DecidableEq, Repr

namespace Switch

def shortSize (s : Switch) : Nat := (s.short.map Text.size).getD 0

def longSize (s : Switch) : Nat := s.long.size + (s.parameter.map (·.size + 1)).getD 0

/-- The long name with the parameter behind it. -/
def longText (s : Switch) : Text :=
  s.long ++ (s.parameter.map ([' '] ++ ·)).getD []

end Switch

namespace Template

def indentation : Nat := 4

def columns (t : Template) : Columns where
  short := (t.switches.map Switch.shortSize).foldl max 0
  long := (t.switches.map Switch.longSize).foldl max 0

/-- Where descriptions start. -/
def descriptionColumn (t : Template) (width : Nat) : Nat :=
  min (indentation + t.columns.short + 2 + t.columns.long + 1) (width / 2)

/-- The short name of an option, or blanks as wide. -/
def shortPieces (t : Template) (s : Switch) : Styled :=
  match s.short with
  | some short =>
      [.text (short ++ [',']), .text (Styled.blanks (t.columns.short - short.size + 1))]
  | none => [.text (Styled.blanks (t.columns.short + 2))]

/-- The way from the end of a name to the description column. -/
def gap (t : Template) (width : Nat) (s : Switch) : Styled :=
  let column := t.descriptionColumn width
  let reached := indentation + t.columns.short + 2 + s.longText.size
  if column ≤ reached then [.text ['\n'], .text (Styled.blanks column)]
  else [.text (Styled.blanks (column - reached))]

/-- The lines of a description; all but the first are indented here. -/
def descriptionPieces (column : Nat) : List Text → Styled
  | [] => []
  | first :: rest =>
      .text (first ++ ['\n'])
        :: rest.flatMap fun line => [.text (Styled.blanks column), .text (line ++ ['\n'])]

def switchPieces (t : Template) (width : Nat) (s : Switch) : Styled :=
  let column := t.descriptionColumn width
  [.text (Styled.blanks indentation), .color .primary] ++ t.shortPieces s
    ++ [.text s.longText] ++ t.gap width s ++ [.color .secondary]
    ++ descriptionPieces column (Text.wrap (width - column) s.description)

/-- The usage text for a terminal of the given width. -/
def usage (t : Template) (program : Text) (width : Nat) : Styled :=
  [.reset, .text (t.header ++ "\n\nUSAGE:\n".toList), .text (Styled.blanks indentation),
    .text (program ++ " [OPTIONS] files...\n\nOPTIONS:\n".toList)]
    ++ t.switches.flatMap (t.switchPieces width)
    ++ [.reset, .text (['\n'] ++ t.trailer ++ ['\n'])]

/-- The usage text, with a record that it is printed. -/
def usageLogged (t : Template) (program : Text) (width : Nat) : Logged Styled := do
  Logged.trace "Printing usage...".toList
  pure (t.usage program width)

end Template

end LexScan.CommandLine
