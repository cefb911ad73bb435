import LexScan.Encoding.Reading

/-!
# Encodings of East Asian texts

Big5, EUC-KR, EUC-JP, Shift_JIS and ISO-2022-JP. Held here is what these say by
rule: ASCII, half-width katakana, the kana rows of JIS X 0208, the user-defined
rows of Shift_JIS, the Roman set of JIS, the pairs of Big5 that say two characters,
the place of a pair in its table, and how far a malformed sequence reaches. What
stands in the tables is a parameter: a table gives the character at a place, or none.
An ASCII byte never belongs to a malformed pair; it is read again as a character of
its own.
-/

namespace LexScan.Encoding

/-- A pair that says nothing. -/
def badPair {σ : Type} (trail : UInt8) : Reading σ :=
  if trail < 0x80 then .bad 1 1 else .bad 2 0

/-- Half-width katakana, counted from U+FF61. -/
def halfWidthKana (b first : UInt8) : Char := Char.ofNat (0xFF61 + (b.toNat - first.toNat))

/-- The hiragana and katakana rows of JIS X 0208, rows and cells from zero. -/
def kana? (row cell : Nat) : Option Char :=
  if row = 3 ∧ cell < 83 then some (Char.ofNat (0x3041 + cell))
  else if row = 4 ∧ cell < 86 then some (Char.ofNat (0x30A1 + cell))
  else none

/-- The character at a place of JIS X 0208, counted in rows of 94. -/
def jis? (table : Nat → Option Char) (place : Nat) : Option Char :=
  match kana? (place / 94) (place % 94) with
  | some c => some c
  | none => table place

/-- Encodings of one or two bytes in which every byte from 0x81 to 0xFE leads. -/
def nextPaired (pair? : UInt8 → UInt8 → Option Text) : Reader Unit := fun _ a bytes =>
  if a < 0x80 then .ascii a ()
  else if a = 0x80 ∨ a = 0xFF then .bad 1 0
  else match bytes with
    | [] => .bad 1 0
    | b :: _ =>
        match pair? a b with
        | some t => .chars 2 t ()
        | none => badPair b

namespace Big5

/-- The place of a pair in rows of 157. -/
def place (a b : UInt8) : Nat :=
  (a.toNat - 0x81) * 157 + (b.toNat - if b < 0x7F then 0x40 else 0x62)

/-- The letters of a place that stand there with an accent of their own. -/
def accented? (place : Nat) : Option Text :=
  if place = 1133 then some ['\u00CA', '\u0304']
  else if place = 1135 then some ['\u00CA', '\u030C']
  else if place = 1164 then some ['\u00EA', '\u0304']
  else if place = 1166 then some ['\u00EA', '\u030C']
  else none

/-- What a pair says. -/
def pair? (table : Nat → Option Char) (a b : UInt8) : Option Text :=
  if (0x40 ≤ b ∧ b ≤ 0x7E) ∨ (0xA1 ≤ b ∧ b ≤ 0xFE) then
    match accented? (place a b) with
    | some t => some t
    | none => (table (place a b)).map ([·])
  else none

end Big5

namespace EucKr

/-- What a pair says; its place is counted in rows of 190. -/
def pair? (table : Nat → Option Char) (a b : UInt8) : Option Text :=
  if 0x41 ≤ b ∧ b ≤ 0xFE then
    (table ((a.toNat - 0x81) * 190 + (b.toNat - 0x41))).map ([·])
  else none

end EucKr

namespace EucJp

def isTrail (b : UInt8) : Bool := 0xA1 ≤ b && b ≤ 0xFE

/-- The place of a pair in rows of 94. -/
def place (a b : UInt8) : Nat := (a.toNat - 0xA1) * 94 + (b.toNat - 0xA1)

/-- Pairs are looked up in `jis0208`, and in `jis0212` behind a byte of their own. -/
def next (jis0208 jis0212 : Nat → Option Char) : Reader Unit := fun _ a bytes =>
  if a < 0x80 then .ascii a ()
  else if ¬(a = 0x8E ∨ a = 0x8F ∨ isTrail a) then .bad 1 0
  else match bytes with
    | [] => .bad 1 0
    | b :: bytes =>
        if a = 0x8E then
          if 0xA1 ≤ b ∧ b ≤ 0xDF then .char 2 (halfWidthKana b 0xA1) () else badPair b
        else if a = 0x8F then
          if isTrail b then
            match bytes with
            | [] => .bad 2 0
            | c :: _ =>
                if isTrail c then
                  match jis0212 (place b c) with
                  | some d => .char 3 d ()
                  | none => .bad 3 0
                else if c < 0x80 then .bad 2 1
                else .bad 3 0
          else badPair b
        else if isTrail b then
          match jis? jis0208 (place a b) with
          | some c => .char 2 c ()
          | none => badPair b
        else badPair b

end EucJp

namespace ShiftJis

/-- The place of a pair in rows of 188. -/
def place (a b : UInt8) : Nat :=
  (a.toNat - if a < 0xA0 then 0x81 else 0xC1) * 188 + (b.toNat - if b < 0x7F then 0x40 else 0x41)

/-- The character of a place; some rows are user-defined. -/
def char? (jis0208 : Nat → Option Char) (place : Nat) : Option Char :=
  if 8836 ≤ place ∧ place ≤ 10715 then some (Char.ofNat (0xE000 + (place - 8836)))
  else jis? jis0208 place

def next (jis0208 : Nat → Option Char) : Reader Unit := fun _ a bytes =>
  if a ≤ 0x80 then .ascii a ()
  else if 0xA1 ≤ a ∧ a ≤ 0xDF then .char 1 (halfWidthKana a 0xA1) ()
  else if a = 0xA0 ∨ 0xFD ≤ a then .bad 1 0
  else match bytes with
    | [] => .bad 1 0
    | b :: _ =>
        if (0x40 ≤ b ∧ b ≤ 0x7E) ∨ (0x80 ≤ b ∧ b ≤ 0xFC) then
          match char? jis0208 (place a b) with
          | some c => .char 2 c ()
          | none => badPair b
        else badPair b

end ShiftJis

namespace Iso2022Jp

/-- The sets that an escape sequence can choose. -/
inductive Set where
  | ascii | roman | katakana | twoByte
deriving DecidableEq, Repr

/-- The set in use, and whether the last thing read was the escape that chose it. -/
structure State where
  set : Set
  justChosen : Bool
deriving DecidableEq, Repr

def start : State := ⟨.ascii, false⟩

/-- The set that the bytes behind an escape character choose. -/
def chosen? (a b : UInt8) : Option Set :=
  if a = 0x28 ∧ b = 0x42 then some .ascii
  else if a = 0x28 ∧ b = 0x4A then some .roman
  else if a = 0x28 ∧ b = 0x49 then some .katakana
  else if a = 0x24 ∧ (b = 0x40 ∨ b = 0x42) then some .twoByte
  else none

/-- What stands behind an escape character. Of two escapes in a row the first is
malformed, for it chose nothing. -/
def nextEscape (s : State) : Bytes → Reading State
  | [] => .bad 1 0
  | [_] => .bad 1 1
  | a :: b :: _ =>
      if ¬(a = 0x24 ∨ a = 0x28) then .bad 1 1
      else match chosen? a b with
        | none => .bad 1 2
        | some set => if s.justChosen then .malformed 3 3 3 else .chars 3 [] ⟨set, true⟩

/-- A plain byte of the one-byte sets. -/
def plain? (set : Set) (b : UInt8) : Option Char :=
  match set with
  | .ascii => if b = 0x0E ∨ b = 0x0F ∨ 0x80 ≤ b then none else some (Char.ofNat b.toNat)
  | .roman =>
      if b = 0x5C then some '¥'
      else if b = 0x7E then some '‾'
      else if b = 0x0E ∨ b = 0x0F ∨ 0x80 ≤ b then none
      else some (Char.ofNat b.toNat)
  | .katakana => if 0x21 ≤ b ∧ b ≤ 0x5F then some (halfWidthKana b 0x21) else none
  | .twoByte => none

/-- The place of a pair in rows of 94. -/
def place (a b : UInt8) : Nat := (a.toNat - 0x21) * 94 + (b.toNat - 0x21)

def next (jis0208 : Nat → Option Char) : Reader State := fun s a bytes =>
  if a = 0x1B then nextEscape s bytes
  else if s.set = .twoByte then
    if 0x21 ≤ a ∧ a ≤ 0x7E then
      match bytes with
      | [] => .bad 1 0
      | b :: _ =>
          if b = 0x1B then .bad 1 1
          else if 0x21 ≤ b ∧ b ≤ 0x7E then
            match jis? jis0208 (place a b) with
            | some c => .char 2 c ⟨s.set, false⟩
            | none => .bad 2 0
          else .bad 2 0
    else .bad 1 0
  else match plain? s.set a with
    | some c => .char 1 c ⟨s.set, false⟩
    | none => .bad 1 0

end Iso2022Jp

end LexScan.Encoding
