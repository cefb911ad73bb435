import LexScan.Cursor.Lemmas
import LexScan.Proofs.Lines

/-!
# Reading line by line

Two loops that read a text to its end, one turn for a line. The first takes each line
whole, the second its body and then its terminator. Both end, wherever the cursor
starts, even between CR and LF, because a turn takes a character at least; and both
give the lines of what remains.
-/

namespace LexScan.Cursor

/-- One turn after another until the end of the text, the pieces that they give and
the cursor after the last. -/
inductive Repeats (turn : Cursor → Text × Cursor) : Cursor → List Text → Cursor → Prop where
  | stop {c : Cursor} (heof : c.isEof = true) : Repeats turn c [] c
  | more {c last : Cursor} {pieces : List Text} (heof : c.isEof = false)
      (rest : Repeats turn (turn c).2 pieces last) :
      Repeats turn c ((turn c).1 :: pieces) last

/-- Takes a line with its terminator. -/
def wholeLine (c : Cursor) : Text × Cursor := c.take (.restOfLine true)

/-- Takes a line without its terminator, and the terminator if there is one. -/
def lineThenBreak (c : Cursor) : Text × Cursor :=
  let (body, atEnd) := c.take (.restOfLine false)
  match atEnd.check .lineBreak with
  | (.ok terminator, after) => (body ++ terminator, after)
  | (.error _, after) => (body, after)

theorem Repeats.unique {turn : Cursor → Text × Cursor} {c last last' : Cursor}
    {pieces pieces' : List Text} (h : Repeats turn c pieces last)
    (h' : Repeats turn c pieces' last') : pieces' = pieces ∧ last' = last := by
  induction h generalizing pieces' last' with
  | stop heof =>
    rcases h' with _ | ⟨hmore, _⟩
    · exact ⟨rfl, rfl⟩
    · rw [heof] at hmore
      cases hmore
  | more heof _ ih =>
    rcases h' with hstop | ⟨_, rest⟩
    · rw [heof] at hstop
      cases hstop
    · obtain ⟨rfl, rfl⟩ := ih rest
      exact ⟨rfl, rfl⟩

/-! ## One turn -/

/-- A body and then its terminator are the whole line. -/
theorem lineThenBreak_eq (c : Cursor) : c.lineThenBreak = c.wholeLine := by
  have hline : (c.take (.restOfLine true)).1 = c.mode.body c.remaining ++
      (c.mode.terminator? (c.mode.afterBody c.remaining)).getD [] := rfl
  have hafter := c.check_lineBreak_eq_take
  rw [lineThenBreak, wholeLine]
  rcases c.check_lineBreak_behind_body with ⟨terminator, hsome, hcheck⟩ | ⟨hnone, _, hcheck⟩
  · rw [hsome, Option.getD_some] at hline
    rw [hcheck] at hafter
    simp only [hcheck]
    exact Prod.ext hline.symm hafter
  · rw [hnone, Option.getD_none, List.append_nil] at hline
    rw [hcheck] at hafter
    simp only [hcheck]
    exact Prod.ext hline.symm hafter

/-! ## The loops -/

/-- The lines of what remains are none at the end of the text, and else the one that can
be taken and those behind it. -/
theorem cases_lines {c : Cursor} {pieces : List Text} (h : c.mode.Lines c.remaining pieces) :
    (c.isEof = true ∧ pieces = []) ∨
      ∃ more, c.isEof = false ∧ pieces = c.wholeLine.1 :: more ∧
        c.mode.Lines c.wholeLine.2.remaining more := by
  rcases h.cases_line with ⟨hnil, hpieces⟩ | ⟨rest, more, ht, hpieces, hne, hmore⟩
  · exact .inl ⟨List.isEmpty_iff.mpr hnil, hpieces⟩
  · have heof : c.isEof = false := by
      rw [isEof]
      simp [hne]
    have hrest : c.wholeLine.2.remaining = rest :=
      List.append_cancel_left ((c.append_remaining_take (.restOfLine true)).trans ht)
    rw [← hrest] at hmore
    exact .inr ⟨more, heof, hpieces, hmore⟩

/-- Taking whole lines gives the lines of what remains. -/
theorem repeats_wholeLine {c : Cursor} {pieces : List Text} (h : c.mode.Lines c.remaining pieces) :
    ∃ last, Repeats wholeLine c pieces last ∧ last.isEof = true := by
  induction pieces generalizing c with
  | nil =>
    rcases cases_lines h with ⟨heof, _⟩ | ⟨_, _, hpieces, _⟩
    · exact ⟨c, .stop heof, heof⟩
    · cases hpieces
  | cons piece pieces ih =>
    rcases cases_lines h with ⟨_, hpieces⟩ | ⟨more, heof, hpieces, hmore⟩
    · cases hpieces
    · obtain ⟨rfl, rfl⟩ := List.cons.inj hpieces
      obtain ⟨last, hrun, hlast⟩ := ih (c := c.wholeLine.2) hmore
      exact ⟨last, .more heof hrun, hlast⟩

/-- Taking whole lines to the end of the text, or bodies and terminators in turn, comes
to an end in one way. Both give the lines of what remained, which make it up again:
none is empty, each is a body with one terminator, and only the last may lack it.
Behind the body of a line a terminator can be taken, unless the text ends there, which
is what the failure then says. -/
theorem lines_partition (c : Cursor) :
    ∃ pieces last,
      (∀ ps d, Repeats wholeLine c ps d ↔ ps = pieces ∧ d = last) ∧
      (∀ ps d, Repeats lineThenBreak c ps d ↔ ps = pieces ∧ d = last) ∧
      last.isEof = true ∧
      (∀ ps, c.mode.Lines c.remaining ps ↔ ps = pieces) ∧
      pieces.flatten = c.remaining ∧
      (∀ earlier piece later, pieces = earlier ++ piece :: later →
        c.mode.IsLine piece later) ∧
      ∀ d : Cursor, let atEnd := (d.take (.restOfLine false)).2
        (∃ terminator, (atEnd.check .lineBreak).1 = .ok terminator) ∨
        (atEnd.isEof = true ∧
          atEnd.check .lineBreak = (.error ⟨.outOfRange, d.input.size⟩, atEnd)) := by
  obtain ⟨pieces, hlines⟩ := c.mode.exists_lines c.remaining
  obtain ⟨last, hrun, hlast⟩ := repeats_wholeLine hlines
  have hunique : ∀ ps d, Repeats wholeLine c ps d ↔ ps = pieces ∧ d = last := by
    intro ps d
    constructor
    · exact hrun.unique
    · rintro ⟨rfl, rfl⟩
      exact hrun
  have hturns : lineThenBreak = wholeLine := funext lineThenBreak_eq
  refine ⟨pieces, last, hunique, by rwa [hturns], hlast, ?_, hlines.flatten, hlines.isLine, ?_⟩
  · intro ps
    constructor
    · intro h
      exact h.unique hlines
    · rintro rfl
      exact hlines
  · intro d atEnd
    rcases d.check_lineBreak_behind_body with ⟨terminator, _, hcheck⟩ | ⟨_, heof, hcheck⟩
    · exact .inl ⟨terminator, congrArg Prod.fst hcheck⟩
    · refine .inr ⟨heof, ?_⟩
      have hend : atEnd.offset = d.input.size := by
        have hsize : d.input.size = atEnd.offset + atEnd.remaining.size := atEnd.size_input
        rw [List.isEmpty_iff.mp heof] at hsize
        exact hsize.symm
      rw [← hend]
      exact hcheck

end LexScan.Cursor
