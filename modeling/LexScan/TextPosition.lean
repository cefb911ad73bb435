import LexScan.LineBreak

/-!
# Lines and columns

A byte offset of a text as a line and a column, both counted from zero; columns
count characters. Offsets past the end stand for the end. An offset inside a
character, or between the two halves of CRLF, stands for the next place.
-/

namespace LexScan

/-- A line and a column, both from zero. -/
structure TextPosition where
  line : Nat
  col : Nat
deriving DecidableEq, Repr

namespace TextPosition

def start : TextPosition := ⟨0, 0⟩

def nextLine (p : TextPosition) : TextPosition := ⟨p.line + 1, 0⟩

def nextColumn (p : TextPosition) : TextPosition := ⟨p.line, p.col + 1⟩

/-- Walk over the units of the text that start within its first bytes; a unit
is a terminator or another character. -/
def walk (mode : LineBreakMode) : Text → Nat → TextPosition → TextPosition
  | _, 0, p => p
  | [], _ + 1, p => p
  | '\r' :: '\n' :: t, n + 1, p => walk mode t (n - 1) p.nextLine
  | c :: t, n + 1, p =>
      walk mode t (n + 1 - c.utf8Size)
        (if mode.isBreak c then p.nextLine else p.nextColumn)

/-- The position of a byte offset. -/
def atOffset (mode : LineBreakMode) (t : Text) (offset : Nat) : TextPosition :=
  walk mode t offset start

@[simp] theorem walk_zero (mode : LineBreakMode) (t : Text) (p : TextPosition) :
    walk mode t 0 p = p := by
  cases t <;> rfl

@[simp] theorem walk_nil (mode : LineBreakMode) (n : Nat) (p : TextPosition) :
    walk mode [] n p = p := by
  cases n <;> rfl

theorem walk_crlf (mode : LineBreakMode) (t : Text) (n : Nat) (p : TextPosition) :
    walk mode ('\r' :: '\n' :: t) (n + 1) p = walk mode t (n - 1) p.nextLine := rfl

theorem walk_cons (mode : LineBreakMode) {c : Char} {t : Text}
    (h : ¬ (c = '\r' ∧ t.head? = some '\n')) (n : Nat) (p : TextPosition) :
    walk mode (c :: t) (n + 1) p = walk mode t (n + 1 - c.utf8Size)
      (if mode.isBreak c then p.nextLine else p.nextColumn) := by
  rw [walk]
  rintro u rfl rfl
  exact h ⟨rfl, rfl⟩

/-- The position as editors show it, counted from one. -/
def display (p : TextPosition) : Text :=
  Text.ofNat (p.line + 1) ++ [':'] ++ Text.ofNat (p.col + 1)

end TextPosition

end LexScan
