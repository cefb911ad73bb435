import LexScan.Text

/-!
# Wrapped texts

A text as lines of a limited number of characters. Line feeds always end a line.
Within a paragraph, words are put on the line while they fit with a space before
them; a word that does not fit starts a new line, and one that is longer than a
line is cut where the line is full. Spaces are never put at the start of a line.
-/

namespace LexScan.Text

/-- The lines that are finished and the one being filled. -/
structure Wrapping where
  finished : List Text := []
  line : Text := []
deriving DecidableEq, Repr

namespace Wrapping

def breakLine (w : Wrapping) : Wrapping := ⟨w.finished ++ [w.line], []⟩

/-- Puts a character on the line, or on the next one if the line is full. -/
def addChar (width : Nat) (w : Wrapping) (c : Char) : Wrapping :=
  let w := if width ≤ w.line.length then w.breakLine else w
  { w with line := w.line ++ [c] }

/-- Puts a word on the line, or on the next one if it does not fit on a line that
holds something already. -/
def addWord (width : Nat) (w : Wrapping) (word : Text) : Wrapping :=
  let w := if w.line ≠ [] ∧ width < w.line.length + 1 + word.length then w.breakLine else w
  let w := if w.line ≠ [] then { w with line := w.line ++ [' '] } else w
  word.foldl (addChar width) w

def lines (w : Wrapping) : List Text := w.finished ++ [w.line]

end Wrapping

/-- The lines of a text without line feeds. -/
def wrapParagraph (width : Nat) (t : Text) : List Text :=
  ((t.splitOn ' ').foldl (Wrapping.addWord width) {}).lines

/-- The lines of a text, of at most `width` characters each; a width of zero
counts as one. -/
def wrap (width : Nat) (t : Text) : List Text :=
  (t.splitOn '\n').flatMap (wrapParagraph (max width 1))

end LexScan.Text
