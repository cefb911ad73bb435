import LexScan.CharClass
import LexScan.Cursor
import LexScan.Log

/-!
# Calls on cursors

Everything that can be asked of a cursor, as data: `Cursor.call` answers one
call and `Cursor.calls` a list of them, each on the cursor that the one before
it left. A failing call does not stop the list. Calls on a clone leave the
cursor itself alone. Failures are recorded on the way.
-/

namespace LexScan.Cursor

inductive Call where
  | position
  | remaining
  | input
  | isEof
  | lineBreaks
  | peekChar
  | peekRestOfLine
  | textPosition
  | setPosition (n : Nat)
  /-- Takes a run and answers its text. -/
  | take (r : Run)
  /-- Takes a run and answers its number of bytes. -/
  | skip (r : Run)
  | skipWhiteSpace
  /-- Skips white space and answers whether there was any. -/
  | whiteSpace1
  | check (k : Check)
  /-- Tries a written pattern, which may not be readable. -/
  | lookingAt (p : Option Pattern)
  | clone (calls : List Call)

inductive Answer where
  | done
  | text (t : Text)
  | number (n : Nat)
  | flag (b : Bool)
  | char (c : Option Char)
  | mode (m : LineBreakMode)
  | position (p : TextPosition)
  | failed (e : ScanError)
  | unreadablePattern
  /-- The answers of a clone, each with the offset of the clone after it. -/
  | steps (answers : List (Answer × Nat))

/-- The name of a check in diagnostics. -/
def Check.name : Check → Text
  | many1 _ => "many1_char".toList
  | count _ _ => "count_char".toList
  | char _ => "char".toList
  | anyChar => "any_char".toList
  | literal _ => "literal".toList
  | horizon _ => "horizon".toList
  | peekHorizon _ => "peek_horizon".toList
  | lookingAt _ => "looking_at".toList
  | lineBreak => "line_break".toList

/-- Tries a check and records its failure. -/
def checkLogged (c : Cursor) (k : Check) : Logged (Except ScanError Text × Cursor) :=
  match c.check k with
  | (.ok piece, after) => pure (.ok piece, after)
  | (.error e, after) => do
      Logged.trace (k.name ++ " failed at offset ".toList ++ Text.ofNat e.offset
        ++ ": ".toList ++ e.failure.message)
      pure (.error e, after)

/-- Moves to a byte offset and records a refusal. -/
def setPositionLogged (c : Cursor) (n : Nat) : Logged (Except ScanError Unit × Cursor) :=
  match c.setPosition n with
  | (.ok u, after) => pure (.ok u, after)
  | (.error e, after) => do
      Logged.trace ("Refusing to move cursor to offset ".toList ++ Text.ofNat n
        ++ " (input length ".toList ++ Text.ofNat c.input.size ++ ")".toList)
      pure (.error e, after)

/-- The answer to a check and the cursor after it. -/
def answerCheck (c : Cursor) (k : Check) : Logged (Answer × Cursor) := do
  match ← c.checkLogged k with
  | (.ok piece, after) => pure (.text piece, after)
  | (.error e, after) => pure (.failed e, after)

/-- A run of white space. -/
def whiteSpace : Run := .satisfying CharClass.isWhiteSpace

mutual

/-- The answer to a call and the cursor after it. -/
def call (c : Cursor) : Call → Logged (Answer × Cursor)
  | .position => pure (.number c.offset, c)
  | .remaining => pure (.text c.remaining, c)
  | .input => pure (.text c.input, c)
  | .isEof => pure (.flag c.isEof, c)
  | .lineBreaks => pure (.mode c.mode, c)
  | .peekChar => pure (.char c.peekChar, c)
  | .peekRestOfLine => pure (.text c.peekRestOfLine, c)
  | .textPosition => pure (.position c.textPosition, c)
  | .setPosition n => do
      match ← c.setPositionLogged n with
      | (.ok _, after) => pure (.done, after)
      | (.error e, after) => pure (.failed e, after)
  | .take r => pure (.text (c.take r).1, (c.take r).2)
  | .skip r => pure (.number (c.skip r).1, (c.skip r).2)
  | .skipWhiteSpace => pure (.done, (c.take whiteSpace).2)
  | .whiteSpace1 =>
      pure (.flag (!(c.take whiteSpace).1.isEmpty), (c.take whiteSpace).2)
  | .check k => c.answerCheck k
  | .lookingAt none => pure (.unreadablePattern, c)
  | .lookingAt (some p) => c.answerCheck (.lookingAt p)
  | .clone inner => (fun (answers, _) => (.steps answers, c)) <$> calls c inner

/-- The answers to a list of calls, each with the offset after it, and the
cursor after the last of them. -/
def calls (c : Cursor) : List Call → Logged (List (Answer × Nat) × Cursor)
  | [] => pure ([], c)
  | first :: rest => do
      let (answer, next) ← call c first
      (fun (answers, last) => ((answer, next.offset) :: answers, last)) <$> calls next rest

end

end LexScan.Cursor
