import LexScan.Cursor.Call

/-!
# Cursors by bytes

The calls on cursors once more, made with a byte offset and nothing beside it.
Every piece of text is cut out of the input at offsets that are computed from
lengths in bytes, and a cut that is out of range or splits a character has no
answer. Nothing in the type keeps the offset inside the text, so that it stays
there is a statement about the arithmetic of each call.

Records are left out here; what a call records is no part of its answer.
-/

namespace LexScan

namespace Text

/-- The byte index of the first character that fails a test. -/
def failAt? (test : Char → Bool) : Text → Option Nat
  | [] => none
  | c :: t => if test c then (failAt? test t).map (c.utf8Size + ·) else some 0

/-- The byte index of the first occurrence of a needle. -/
def needleAt? (needle : Text) : Text → Option Nat
  | [] => if needle.isEmpty then some 0 else none
  | c :: t =>
      if needle.isPrefixOf (c :: t) then some 0
      else (needleAt? needle t).map (c.utf8Size + ·)

/-- The byte index behind the first `n` characters, if there are so many. -/
def afterChars? : Nat → Text → Option Nat
  | 0, _ => some 0
  | _ + 1, [] => none
  | n + 1, c :: t => (afterChars? n t).map (c.utf8Size + ·)

end Text

/-- A place in a text as a bare byte offset. -/
structure ByteCursor where
  input : Text
  mode : LineBreakMode
  offset : Nat
deriving DecidableEq, Repr

namespace ByteCursor

open Cursor (Run Check Call Answer)

def start (mode : LineBreakMode) (t : Text) : ByteCursor := ⟨t, mode, 0⟩

/-- The input from the offset on. -/
def rest? (b : ByteCursor) : Option Text := b.input.from? b.offset

/-- Cuts the input up to `last` out and moves there. -/
def cutTo? (b : ByteCursor) (last : Nat) : Option (Text × ByteCursor) :=
  (b.input.slice? b.offset last).map fun piece => (piece, { b with offset := last })

/-- The end of the current line and the start of the next one. -/
def lineBounds? (b : ByteCursor) : Option (Nat × Nat) := do
  match (← b.rest?).failAt? (!b.mode.isBreak ·) with
  | none => some (b.input.size, b.input.size)
  | some first =>
      match b.mode.terminator? (← (← b.rest?).from? first) with
      | none => some (b.input.size, b.input.size)
      | some terminator => some (b.offset + first, b.offset + (first + terminator.size))

/-- The offset at which a run ends. -/
def runEnd? (b : ByteCursor) : Run → Option Nat
  | .satisfying test => do
      some (((← b.rest?).failAt? test).elim b.input.size (b.offset + ·))
  | .till needle => do
      some ((Text.needleAt? needle (← b.rest?)).elim b.input.size (b.offset + ·))
  | .restOfLine withTerminator => do
      let (first, last) ← b.lineBounds?
      some (if withTerminator then last else first)

def take? (b : ByteCursor) (r : Run) : Option (Text × ByteCursor) := do
  b.cutTo? (← b.runEnd? r)

/-- Fails where the cursor is. -/
def fail (b : ByteCursor) (failure : ScanFailure) :
    Option (Except ScanError Text × ByteCursor) :=
  some (.error ⟨failure, b.offset⟩, b)

/-- Succeeds with a piece that has been cut out. -/
def succeed (r : Text × ByteCursor) : Except ScanError Text × ByteCursor := (.ok r.1, r.2)

/-- Moves over a character that has been looked at. -/
def pass (b : ByteCursor) (c : Char) : Option (Except ScanError Text × ByteCursor) :=
  some (.ok [c], { b with offset := b.offset + c.utf8Size })

def check? (b : ByteCursor) : Check → Option (Except ScanError Text × ByteCursor)
  | .many1 x => do
      if (← b.rest?).head? = some x then succeed <$> b.take? (.satisfying (· == x))
      else b.fail .noMatch
  | .count n x => do
      match (← b.rest?).afterChars? n with
      | some k => do
          let last ← b.runEnd? (.satisfying (· == x))
          succeed <$> b.cutTo? (min last (b.offset + k))
      | none => b.fail .outOfRange
  | .char x => do
      match (← b.rest?).head? with
      | some c => if c = x then b.pass c else b.fail .noMatch
      | none => b.fail .outOfRange
  | .anyChar => do
      match (← b.rest?).head? with
      | some c => b.pass c
      | none => b.fail .outOfRange
  | .literal s => do
      match Cursor.matchLiteral s (← b.rest?) with
      | .ok found => succeed <$> b.cutTo? (b.offset + found.size)
      | .error failure => b.fail failure
  | .horizon n => do
      match (← b.rest?).afterChars? n with
      | some k => succeed <$> b.cutTo? (b.offset + k)
      | none => b.fail .outOfRange
  | .peekHorizon n => do
      match (← b.rest?).afterChars? n with
      | some k => do
          let (piece, _) ← b.cutTo? (b.offset + k)
          some (.ok piece, b)
      | none => b.fail .outOfRange
  | .lookingAt p => do
      match p.find? (← b.rest?) with
      | some ([], found) => succeed <$> b.cutTo? (b.offset + found.size)
      | _ => b.fail .noMatch
  | .lineBreak =>
      if b.input.size ≤ b.offset then b.fail .outOfRange
      else do
        match b.mode.terminator? (← b.rest?) with
        | some terminator => succeed <$> b.cutTo? (b.offset + terminator.size)
        | none => b.fail .noMatch

/-- The position of the offset `stop`, counted on from an offset `n` before it that
has position `p`. -/
def positionFrom? (mode : LineBreakMode) (t : Text) (stop n : Nat) (p : TextPosition) :
    Option TextPosition :=
  if n < stop then
    match t.from? n with
    | none => none
    | some r =>
        match h : mode.terminator? r with
        | some terminator =>
            have := Text.size_pos (LineBreakMode.terminator?_ne_nil h)
            positionFrom? mode t stop (n + terminator.size) p.nextLine
        | none =>
            match r with
            | [] => some p
            | c :: _ =>
                have := c.utf8Size_pos
                positionFrom? mode t stop (n + c.utf8Size) p.nextColumn
  else some p
termination_by stop - n

def textPosition? (b : ByteCursor) : Option TextPosition :=
  positionFrom? b.mode b.input (min b.offset b.input.size) 0 .start

/-- Moves to a byte offset, if that is a boundary of the text. -/
def setPosition (b : ByteCursor) (n : Nat) : Answer × ByteCursor :=
  if b.input.size < n ∨ ¬ b.input.IsBoundary n then (.failed ⟨.outOfRange, b.offset⟩, b)
  else (.done, { b with offset := n })

def answerCheck? (b : ByteCursor) (k : Check) : Option (Answer × ByteCursor) := do
  match ← b.check? k with
  | (.ok piece, after) => some (.text piece, after)
  | (.error e, after) => some (.failed e, after)

mutual

/-- The answer to a call and the cursor after it, if all cuts can be made. -/
def call? (b : ByteCursor) : Call → Option (Answer × ByteCursor)
  | .position => some (.number b.offset, b)
  | .remaining => do some (.text (← b.rest?), b)
  | .input => some (.text b.input, b)
  | .isEof => some (.flag (b.input.size ≤ b.offset), b)
  | .lineBreaks => some (.mode b.mode, b)
  | .peekChar => do some (.char (← b.rest?).head?, b)
  | .peekRestOfLine => do
      let (first, _) ← b.lineBounds?
      let (line, _) ← b.cutTo? first
      some (.text line, b)
  | .textPosition => do some (.position (← b.textPosition?), b)
  | .setPosition n => some (b.setPosition n)
  | .take r => do
      let (piece, after) ← b.take? r
      some (.text piece, after)
  | .skip r => do
      let (piece, after) ← b.take? r
      some (.number piece.size, after)
  | .skipWhiteSpace => do
      let (_, after) ← b.take? Cursor.whiteSpace
      some (.done, after)
  | .whiteSpace1 => do
      let (piece, after) ← b.take? Cursor.whiteSpace
      some (.flag (!piece.isEmpty), after)
  | .check k => b.answerCheck? k
  | .lookingAt none => some (.unreadablePattern, b)
  | .lookingAt (some p) => b.answerCheck? (.lookingAt p)
  | .clone inner => do
      let (answers, _) ← calls? b inner
      some (.steps answers, b)

/-- The answers to a list of calls, each with the offset after it, and the cursor
after the last of them, if all cuts can be made. -/
def calls? (b : ByteCursor) : List Call → Option (List (Answer × Nat) × ByteCursor)
  | [] => some ([], b)
  | first :: rest => do
      let (answer, next) ← call? b first
      let (answers, last) ← calls? next rest
      some ((answer, next.offset) :: answers, last)

end

end ByteCursor

end LexScan
