import LexScan.Token.Rule

/-!
# Tokens of a line

A line is made of white space and tokens. White space is skipped, then the first rule
that applies makes a token, and so on to the end of the line. Every token takes a
character at least, which is why the loop ends.
-/

namespace LexScan.Token

/-- The cursor behind the white space that starts here. -/
def skipBlank (c : Cursor) : Cursor := (c.take Cursor.whiteSpace).2

theorem length_skipBlank_le (c : Cursor) :
    (skipBlank c).remaining.length ≤ c.remaining.length := by
  rw [skipBlank, Cursor.take, Cursor.remaining_advance, List.length_drop]
  exact Nat.sub_le _ _

/-- The tokens from a place that is not blank on. -/
def allFrom (c : Cursor) : Logged (Except ScanError (List TokenKind)) :=
  if c.isEof then pure (.ok [])
  else do
    match ← (next c).attach with
    | ⟨.error e, _⟩ => pure (.error e)
    | ⟨.ok (kind, after), h⟩ =>
        have := length_skipBlank_le after
        have := length_lt_of_next h.symm
        (·.map (kind :: ·)) <$> allFrom (skipBlank after)
termination_by c.remaining.length
decreasing_by omega

/-- The tokens of the line that a cursor stands at the start of. -/
def all (c : Cursor) : Logged (Except ScanError (List TokenKind)) := allFrom (skipBlank c)

end LexScan.Token
