import LexScan.LineBreak
import LexScan.TextPosition
import LexScan.ScanError
import LexScan.Pattern.Search

/-!
# Cursors

A cursor is a place in a text that does not change, kept both as a byte offset
and as the text still to be read; that the two belong together is part of the
type, so no cursor ever stands inside a character. Two kinds of step move it. A
run takes the longest stretch of its kind and never fails; an empty one is fine.
A check takes what it asks for or fails, and after a failure the cursor is what
it was, so that the next alternative can be tried at once.

Each step first chooses a piece of the remaining text and then moves past it:
`Run.piece` and `Check.piece` are all that tells one step from another.
-/

namespace LexScan

/-- A place in a text. -/
structure Cursor where
  input : Text
  mode : LineBreakMode
  offset : Nat
  remaining : Text
  from?_offset : input.from? offset = some remaining
deriving DecidableEq, Repr

namespace Cursor

/-- Stretches that are taken as far as they reach. -/
inductive Run where
  /-- All characters up to the first that fails a test. -/
  | satisfying (test : Char → Bool)
  /-- Everything before the next occurrence of a needle, or the rest. -/
  | till (needle : Text)
  /-- The rest of the line, with its terminator or without. -/
  | restOfLine (withTerminator : Bool)

def Run.piece (mode : LineBreakMode) (t : Text) : Run → Text
  | satisfying test => t.takeWhile test
  | till needle => Text.before needle t
  | restOfLine withTerminator => mode.line withTerminator t

/-- Pieces that the text has to continue with. -/
inductive Check where
  /-- A run of at least one `x`. -/
  | many1 (x : Char)
  /-- The run of `x` within the next `n` characters, of which there have to be `n`. -/
  | count (n : Nat) (x : Char)
  | char (x : Char)
  | anyChar
  | literal (s : Text)
  /-- The next `n` characters. -/
  | horizon (n : Nat)
  /-- The next `n` characters, without moving. -/
  | peekHorizon (n : Nat)
  /-- What a pattern matches right here; a match further on does not count. -/
  | lookingAt (p : Pattern)
  | lineBreak

/-- A literal that does not fit into the text runs out of range; any other
difference is a mismatch. -/
def matchLiteral (s t : Text) : Except ScanFailure Text :=
  if s.isPrefixOf t then .ok s
  else if (t.take s.length).length < s.length then .error .outOfRange
  else .error .noMatch

def Check.piece (mode : LineBreakMode) (t : Text) : Check → Except ScanFailure Text
  | many1 x => if t.head? = some x then .ok (t.takeWhile (· == x)) else .error .noMatch
  | count n x =>
      if n ≤ t.length then .ok ((t.takeWhile (· == x)).take n) else .error .outOfRange
  | char x =>
      match t with
      | [] => .error .outOfRange
      | c :: _ => if c = x then .ok [c] else .error .noMatch
  | anyChar =>
      match t with
      | [] => .error .outOfRange
      | c :: _ => .ok [c]
  | literal s => matchLiteral s t
  | horizon n => if n ≤ t.length then .ok (t.take n) else .error .outOfRange
  | peekHorizon n => if n ≤ t.length then .ok (t.take n) else .error .outOfRange
  | lookingAt p =>
      match p.atStart? t with
      | some piece => .ok piece
      | none => .error .noMatch
  | lineBreak =>
      if t.isEmpty then .error .outOfRange
      else match mode.terminator? t with
        | some terminator => .ok terminator
        | none => .error .noMatch

/-- Whether a check that succeeds moves the cursor. -/
def Check.moves : Check → Bool
  | peekHorizon _ => false
  | _ => true

/-- The cursor at the start of a text. -/
def start (mode : LineBreakMode) (t : Text) : Cursor := ⟨t, mode, 0, t, Text.from?_zero t⟩

def isEof (c : Cursor) : Bool := c.remaining.isEmpty

def peekChar (c : Cursor) : Option Char := c.remaining.head?

def textPosition (c : Cursor) : TextPosition :=
  TextPosition.atOffset c.mode c.input c.offset

/-- The rest of the line without its terminator, without moving. -/
def peekRestOfLine (c : Cursor) : Text := c.mode.body c.remaining

/-- The cursor `n` characters further on, or at the end. -/
def advance (c : Cursor) (n : Nat) : Cursor where
  input := c.input
  mode := c.mode
  offset := c.offset + Text.size (c.remaining.take n)
  remaining := c.remaining.drop n
  from?_offset := Text.from?_add_take c.from?_offset n

/-- Takes a run and answers it. -/
def take (c : Cursor) (r : Run) : Text × Cursor :=
  let piece := r.piece c.mode c.remaining
  (piece, c.advance piece.length)

/-- Takes a run and answers its number of bytes. -/
def skip (c : Cursor) (r : Run) : Nat × Cursor :=
  ((c.take r).1.size, (c.take r).2)

/-- Tries a check. -/
def check (c : Cursor) (k : Check) : Except ScanError Text × Cursor :=
  match k.piece c.mode c.remaining with
  | .ok piece => (.ok piece, if k.moves then c.advance piece.length else c)
  | .error failure => (.error ⟨failure, c.offset⟩, c)

/-- Moves to a byte offset, if that is a boundary of the text. -/
def setPosition (c : Cursor) (n : Nat) : Except ScanError Unit × Cursor :=
  if h : c.input.IsBoundary n then
    (.ok (), ⟨c.input, c.mode, n, (c.input.from? n).get h, (Option.some_get h).symm⟩)
  else (.error ⟨.outOfRange, c.offset⟩, c)

@[simp] theorem input_advance (c : Cursor) (n : Nat) : (c.advance n).input = c.input := rfl

@[simp] theorem mode_advance (c : Cursor) (n : Nat) : (c.advance n).mode = c.mode := rfl

@[simp] theorem remaining_advance (c : Cursor) (n : Nat) :
    (c.advance n).remaining = c.remaining.drop n := rfl

end Cursor

end LexScan
