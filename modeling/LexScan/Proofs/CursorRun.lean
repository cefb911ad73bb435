import LexScan.Proofs.ByteCursor.Simulation

/-!
# Runs of calls

What holds of a cursor after any calls, on itself or on clones at any depth. The text
and the mode are those of the start. The offset is one of the text, and the byte
arithmetic of every call leads to it by cuts that can all be made. So an offset that
is written down at some time brings every later cursor of the run back to what it was
then, together with everything that it would have answered.

Which texts the calls answer is not said here.
-/

namespace LexScan.Cursor

/-- The cursors that a list of calls comes by, clones included. -/
inductive Visits : Cursor → List Call → Cursor → Prop where
  | here (c : Cursor) (ks : List Call) : Visits c ks c
  | later {c d : Cursor} {k : Call} {ks : List Call}
      (rest : Visits (call c k).value.2 ks d) : Visits c (k :: ks) d
  | onClone {c d : Cursor} {inner ks : List Call}
      (inside : Visits c inner d) : Visits c (.clone inner :: ks) d

theorem Visits.text {c d : Cursor} {ks : List Call} (h : Visits c ks d) :
    d.input = c.input ∧ d.mode = c.mode := by
  induction h with
  | here c ks => exact ⟨rfl, rfl⟩
  | @later c d k ks _ ih =>
    have hk := c.call_text k
    exact ⟨ih.1.trans hk.1, ih.2.trans hk.2⟩
  | onClone _ ih => exact ih

/-- Going back to the offset of a cursor over the same text, and then on, is going on
from that cursor. -/
theorem calls_setPosition {c d : Cursor} (hi : d.input = c.input) (hm : d.mode = c.mode)
    (more : List Call) :
    calls d (.setPosition c.offset :: more) =
      (fun (answers, last) => ((.done, c.offset) :: answers, last)) <$> calls c more := by
  have h : call d (.setPosition c.offset) = pure (.done, c) := by
    rw [call, setPositionLogged, setPosition_offset hi hm]
    rfl
  rw [calls, h]
  rfl

/-- After any calls a cursor stands at a boundary of the text that it started with.
The same calls on the bare byte offset make all their cuts and come to the same
answers and offsets, and whatever offset was written down on the way leads back to
the cursor that it was taken from, with all that this would go on to answer. -/
theorem calls_inside (mode : LineBreakMode) (t : Text) (ks : List Call) :
    (ByteCursor.start mode t).calls? ks =
        some ((calls (start mode t) ks).value.1, (calls (start mode t) ks).value.2.bytes) ∧
      ∀ c, Visits (start mode t) ks c →
        c.input = t ∧ c.mode = mode ∧ c.offset ≤ t.size ∧ t.IsBoundary c.offset ∧
        ∀ d, Visits (start mode t) ks d →
          d.setPosition c.offset = (.ok (), c) ∧
          ∀ more, calls d (.setPosition c.offset :: more) =
            (fun (answers, last) => ((.done, c.offset) :: answers, last)) <$> calls c more := by
  refine ⟨calls?_bytes (start mode t) ks, ?_⟩
  intro c hc
  have htext := hc.text
  have hi : c.input = t := htext.1
  have hboundary : t.IsBoundary c.offset := by
    rw [← hi]
    exact Option.isSome_iff_exists.mpr ⟨_, c.from?_offset⟩
  refine ⟨hi, htext.2, hboundary.le_size, hboundary, ?_⟩
  intro d hd
  have hdi := hd.text.1.trans htext.1.symm
  have hdm := hd.text.2.trans htext.2.symm
  exact ⟨setPosition_offset hdi hdm, calls_setPosition hdi hdm⟩

/-- An offset that a clone has reached, given to a cursor between CR and LF. -/
theorem calls_inside_on_clone :
    let t : Text := ['é', '\r', '\n', 'x']
    let ks : List Call :=
      [.take (.restOfLine false), .clone [.check .lineBreak, .setPosition 1], .check .anyChar]
    let saved : Cursor := ⟨t, .ascii, 4, ['x'], rfl⟩
    let last : Cursor := ⟨t, .ascii, 3, ['\n', 'x'], rfl⟩
    Visits (start .ascii t) ks saved ∧ Visits (start .ascii t) ks last ∧
      saved.offset ≤ t.size ∧ t.IsBoundary saved.offset ∧
      last.setPosition saved.offset = (.ok (), saved) := by
  intro t ks saved last
  have hsaved : Visits (start .ascii t) ks saved := .later (.onClone (.later (.here saved _)))
  have hlast : Visits (start .ascii t) ks last := .later (.later (.later (.here last _)))
  have h := (calls_inside .ascii t ks).2 saved hsaved
  exact ⟨hsaved, hlast, h.2.2.1, h.2.2.2.1, (h.2.2.2.2 last hlast).1⟩

end LexScan.Cursor
