import LexScan.Source
import LexScan.Token

/-!
# Reports

What a source holds, in numbers: its lines, how many of them are blank, the
tokens on them by kind, and the length of the longest line. Counts add up, with
the longer of two longest lines; the sum forgets order and grouping. Every line
takes a character at least, which is why the loop over them ends.
-/

namespace LexScan

/-- Figures of a text. The longest line is counted in characters, without its
terminator. -/
@[ext] structure Counts where
  lines : Nat := 0
  blankLines : Nat := 0
  words : Nat := 0
  numbers : Nat := 0
  strings : Nat := 0
  comments : Nat := 0
  symbols : Nat := 0
  longestLine : Nat := 0
deriving DecidableEq, Repr

namespace Counts

def add (a b : Counts) : Counts where
  lines := a.lines + b.lines
  blankLines := a.blankLines + b.blankLines
  words := a.words + b.words
  numbers := a.numbers + b.numbers
  strings := a.strings + b.strings
  comments := a.comments + b.comments
  symbols := a.symbols + b.symbols
  longestLine := max a.longestLine b.longestLine

instance : Add Counts := ⟨add⟩

/-- The figures of one line: its tokens and its length. A line without tokens is
blank. -/
def ofLine (tokens : List TokenKind) (length : Nat) : Counts where
  lines := 1
  blankLines := if tokens.isEmpty then 1 else 0
  words := tokens.count .word
  numbers := tokens.count .number
  strings := tokens.count .string
  comments := tokens.count .comment
  symbols := tokens.count .symbol
  longestLine := length

end Counts

/-- Figures under a name. -/
structure Report where
  name : Text
  counts : Counts := {}
deriving DecidableEq, Repr

namespace Report

/-- Adds the figures of another report. -/
def add (r other : Report) : Report := { r with counts := r.counts + other.counts }

/-- The report under a given name with the figures of all reports added. -/
def total (name : Text) (reports : List Report) : Report := reports.foldl add ⟨name, {}⟩

/-- The line that a cursor stands in, without its terminator, and the cursor behind
both. -/
def takeLine (name : Text) (c : Cursor) : Logged (Text × Cursor) := do
  let (line, atEnd) := c.take (.restOfLine false)
  let (ended, after) ← atEnd.checkLogged .lineBreak
  if ended matches .error _ then
    Logged.trace ("Last line of ".toList ++ name ++ " has no terminator".toList)
  pure (line, after)

theorem value_takeLine (name : Text) (c : Cursor) :
    (takeLine name c).value = (c.mode.body c.remaining, (c.take (.restOfLine true)).2) := by
  rw [← Cursor.check_lineBreak_eq_take]
  simp only [takeLine, Logged.value_bind, Cursor.value_checkLogged]
  split <;> rfl

theorem length_lt_of_takeLine (name : Text) {c : Cursor} (h : c.isEof = false) :
    (takeLine name c).value.2.remaining.length < c.remaining.length := by
  rw [value_takeLine]
  exact Cursor.length_take_line_lt h

/-- The figures counted so far with those of the lines from a cursor on. -/
def countFrom (name : Text) (c : Cursor) (counted : Counts) :
    Logged (Except ScanError Counts) :=
  if heof : c.isEof then pure (.ok counted)
  else do
    let ⟨(line, after), h⟩ ← (takeLine name c).attach
    match ← Token.all (.start c.mode line) with
    | .error e => pure (.error e)
    | .ok tokens =>
        have : after.remaining.length < c.remaining.length := by
          have := length_lt_of_takeLine name (Bool.eq_false_iff.mpr heof)
          rwa [← h] at this
        countFrom name after (counted + Counts.ofLine tokens line.length)
termination_by c.remaining.length

/-- The report on a source, unless a check fails that ends the scan. -/
def attempt (s : Source) : Logged (Except ScanError Report) := do
  Logged.trace ("Scanning ".toList ++ s.name ++ "...".toList)
  (·.map (⟨s.name, ·⟩)) <$> countFrom s.name s.cursor {}

/-- The report on a source. There always is one, since no scan is ended by a failure. -/
def scan (s : Source) : Logged Report := (·.toOption.getD ⟨s.name, {}⟩) <$> attempt s

end Report

end LexScan
