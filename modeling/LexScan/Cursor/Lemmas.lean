import LexScan.Cursor

/-!
# Pieces that steps take

Every run, and every check that succeeds, takes an initial piece of the text that
remains. So what is taken and what then remains make up the text again, and the
offset moves by the number of bytes taken.
-/

namespace LexScan.Cursor

theorem Run.piece_prefix (mode : LineBreakMode) (t : Text) (r : Run) :
    r.piece mode t <+: t := by
  cases r with
  | satisfying test => exact List.takeWhile_prefix test
  | till needle => exact Text.before_prefix needle t
  | restOfLine withTerminator => exact mode.line_prefix withTerminator t

theorem matchLiteral_prefix {s t piece : Text} (h : matchLiteral s t = .ok piece) :
    piece <+: t := by
  rw [matchLiteral] at h
  split at h
  · next hp =>
      obtain rfl := Except.ok.inj h
      exact List.isPrefixOf_iff_prefix.mp hp
  · split at h <;> simp at h

theorem Check.piece_prefix {mode : LineBreakMode} {t piece : Text} {k : Check}
    (h : k.piece mode t = .ok piece) : piece <+: t := by
  cases k with
  | many1 x =>
      rw [Check.piece] at h
      split at h
      · obtain rfl := Except.ok.inj h
        exact List.takeWhile_prefix _
      · simp at h
  | count n x =>
      rw [Check.piece] at h
      split at h
      · obtain rfl := Except.ok.inj h
        exact (List.take_prefix n _).trans (List.takeWhile_prefix _)
      · simp at h
  | char x =>
      cases t with
      | nil => simp [Check.piece] at h
      | cons c t =>
          rw [Check.piece] at h
          split at h
          · obtain rfl := Except.ok.inj h
            exact ⟨t, rfl⟩
          · simp at h
  | anyChar =>
      cases t with
      | nil => simp [Check.piece] at h
      | cons c t =>
          obtain rfl := Except.ok.inj h
          exact ⟨t, rfl⟩
  | literal s => exact matchLiteral_prefix h
  | horizon n =>
      rw [Check.piece] at h
      split at h
      · obtain rfl := Except.ok.inj h
        exact List.take_prefix n t
      · simp at h
  | peekHorizon n =>
      rw [Check.piece] at h
      split at h
      · obtain rfl := Except.ok.inj h
        exact List.take_prefix n t
      · simp at h
  | lookingAt p =>
      rw [Check.piece] at h
      split at h
      · next hp =>
          obtain rfl := Except.ok.inj h
          exact Pattern.atStart?_prefix hp
      · simp at h
  | lineBreak =>
      rw [Check.piece] at h
      split at h
      · simp at h
      · split at h
        · next ht =>
            obtain rfl := Except.ok.inj h
            exact LineBreakMode.terminator?_prefix ht
        · simp at h

theorem size_input (c : Cursor) : c.input.size = c.offset + c.remaining.size :=
  Text.size_of_from? c.from?_offset

theorem isEof_iff (c : Cursor) : c.isEof = true ↔ c.input.size ≤ c.offset := by
  have hsize := c.size_input
  rw [isEof, List.isEmpty_iff]
  constructor
  · intro h
    rw [h] at hsize
    simp at hsize
    omega
  · intro h
    by_cases hnil : c.remaining = []
    · exact hnil
    · have := Text.size_pos hnil
      omega

/-- The offset behind an initial piece of what remains. -/
theorem offset_advance {c : Cursor} {piece : Text} (h : piece <+: c.remaining) :
    (c.advance piece.length).offset = c.offset + piece.size := by
  have htake := List.prefix_iff_eq_take.mp h
  simp only [advance]
  rw [← htake]

theorem offset_take (c : Cursor) (r : Run) :
    (c.take r).2.offset = c.offset + (c.take r).1.size := by
  have h := List.prefix_iff_eq_take.mp (r.piece_prefix c.mode c.remaining)
  simp only [take, advance]
  rw [← h]

theorem append_remaining_take (c : Cursor) (r : Run) :
    (c.take r).1 ++ (c.take r).2.remaining = c.remaining := by
  simpa only [take, remaining_advance] using
    List.prefix_iff_eq_append.mp (r.piece_prefix c.mode c.remaining)

theorem remaining_advance_takeWhile (c : Cursor) (test : Char → Bool) :
    (c.advance (c.remaining.takeWhile test).length).remaining = c.remaining.dropWhile test := by
  have htake := c.append_remaining_take (.satisfying test)
  exact List.append_cancel_left (htake.trans List.takeWhile_append_dropWhile.symm)

/-! ## Checks -/

theorem check_of_ok {c : Cursor} {k : Check} {piece : Text}
    (h : k.piece c.mode c.remaining = .ok piece) :
    c.check k = (.ok piece, if k.moves then c.advance piece.length else c) := by
  rw [check, h]

theorem check_of_error {c : Cursor} {k : Check} {failure : ScanFailure}
    (h : k.piece c.mode c.remaining = .error failure) :
    c.check k = (.error ⟨failure, c.offset⟩, c) := by
  rw [check, h]

theorem check_char_of_head {c : Cursor} {x : Char} (h : c.remaining.head? = some x) :
    c.check (.char x) = (.ok [x], c.advance 1) := by
  obtain ⟨t, ht⟩ := List.head?_eq_some_iff.mp h
  have hpiece : (Check.char x).piece c.mode c.remaining = .ok [x] := by
    rw [ht]
    exact if_pos rfl
  exact check_of_ok hpiece

theorem check_char_of_not_head {c : Cursor} {x : Char} (h : c.remaining.head? ≠ some x) :
    ∃ e, c.check (.char x) = (.error e, c) := by
  cases ht : c.remaining with
  | nil =>
    have hpiece : (Check.char x).piece c.mode c.remaining = .error .outOfRange := by
      rw [ht]
      rfl
    exact ⟨_, check_of_error hpiece⟩
  | cons y t =>
    have hy : y ≠ x := by
      rintro rfl
      exact h (by rw [ht]; rfl)
    have hpiece : (Check.char x).piece c.mode c.remaining = .error .noMatch := by
      rw [ht]
      exact if_neg hy
    exact ⟨_, check_of_error hpiece⟩

theorem check_literal_of_isPrefix {c : Cursor} {s : Text} (h : s <+: c.remaining) :
    c.check (.literal s) = (.ok s, c.advance s.length) := by
  have hpiece : (Check.literal s).piece c.mode c.remaining = .ok s :=
    if_pos (List.isPrefixOf_iff_prefix.mpr h)
  exact check_of_ok hpiece

theorem check_literal_of_not_isPrefix {c : Cursor} {s : Text} (h : ¬ s <+: c.remaining) :
    ∃ e, c.check (.literal s) = (.error e, c) := by
  have hpiece : ∃ failure, (Check.literal s).piece c.mode c.remaining = .error failure := by
    rw [Check.piece, matchLiteral, if_neg (mt List.isPrefixOf_iff_prefix.mp h)]
    split
    · exact ⟨_, rfl⟩
    · exact ⟨_, rfl⟩
  obtain ⟨failure, hfailure⟩ := hpiece
  exact ⟨_, check_of_error hfailure⟩

theorem check_lookingAt_of_some {c : Cursor} {p : Pattern} {piece : Text}
    (h : p.atStart? c.remaining = some piece) :
    c.check (.lookingAt p) = (.ok piece, c.advance piece.length) := by
  have hpiece : (Check.lookingAt p).piece c.mode c.remaining = .ok piece := by
    rw [Check.piece, h]
  exact check_of_ok hpiece

theorem check_lookingAt_of_none {c : Cursor} {p : Pattern}
    (h : p.atStart? c.remaining = none) :
    c.check (.lookingAt p) = (.error ⟨.noMatch, c.offset⟩, c) := by
  have hpiece : (Check.lookingAt p).piece c.mode c.remaining = .error .noMatch := by
    rw [Check.piece, h]
  exact check_of_error hpiece

theorem check_horizon_of_le {c : Cursor} {n : Nat} (h : n ≤ c.remaining.length) :
    c.check (.horizon n) = (.ok (c.remaining.take n), c.advance n) := by
  have hpiece : (Check.horizon n).piece c.mode c.remaining = .ok (c.remaining.take n) :=
    if_pos h
  have hcheck := check_of_ok hpiece
  rwa [List.length_take, Nat.min_eq_left h] at hcheck

/-! ## Moves to an offset -/

theorem isBoundary_offset (c : Cursor) : c.input.IsBoundary c.offset :=
  Option.isSome_iff_exists.mpr ⟨_, c.from?_offset⟩

/-- At every boundary of a text there is a cursor. -/
theorem exists_of_isBoundary (mode : LineBreakMode) {t : Text} {n : Nat} (h : t.IsBoundary n) :
    ∃ c : Cursor, c.input = t ∧ c.mode = mode ∧ c.offset = n := by
  obtain ⟨r, hr⟩ := Option.isSome_iff_exists.mp h
  exact ⟨⟨t, mode, n, r, hr⟩, rfl, rfl, rfl⟩

theorem setPosition_of_from? {c : Cursor} {n : Nat} {r : Text} (h : c.input.from? n = some r) :
    c.setPosition n = (.ok (), ⟨c.input, c.mode, n, r, h⟩) := by
  have hb : c.input.IsBoundary n := Option.isSome_iff_exists.mpr ⟨r, h⟩
  rw [setPosition, dif_pos hb]
  simp [h]

theorem setPosition_of_not_isBoundary {c : Cursor} {n : Nat} (h : ¬ c.input.IsBoundary n) :
    c.setPosition n = (.error ⟨.outOfRange, c.offset⟩, c) := dif_neg h

/-- Cursors over one text in one mode differ by their offsets only. -/
theorem eq_of_offset {c d : Cursor} (hi : c.input = d.input) (hm : c.mode = d.mode)
    (ho : c.offset = d.offset) : c = d := by
  obtain ⟨t, mode, n, r, hr⟩ := c
  obtain ⟨u, mode', m, s, hs⟩ := d
  obtain rfl : t = u := hi
  obtain rfl : mode = mode' := hm
  obtain rfl : n = m := ho
  obtain rfl : r = s := Option.some.inj (hr.symm.trans hs)
  rfl

@[simp] theorem advance_zero (c : Cursor) : c.advance 0 = c := eq_of_offset rfl rfl rfl

theorem advance_advance (c : Cursor) (n m : Nat) :
    (c.advance n).advance m = c.advance (n + m) := by
  refine eq_of_offset rfl rfl ?_
  simp only [advance, List.take_add, Text.size_append, Nat.add_assoc]

/-- The offset of a cursor leads every cursor over the same text back to it. -/
theorem setPosition_offset {c d : Cursor} (hi : c.input = d.input) (hm : c.mode = d.mode) :
    c.setPosition d.offset = (.ok (), d) := by
  have h : c.input.from? d.offset = some d.remaining := by
    rw [hi]
    exact d.from?_offset
  rw [setPosition_of_from? h]
  exact congrArg (Except.ok (), ·) (eq_of_offset hi hm rfl)

/-! ## Ends of lines -/

theorem remaining_take_body (c : Cursor) :
    (c.take (.restOfLine false)).2.remaining = c.mode.afterBody c.remaining := by
  have htake := c.append_remaining_take (.restOfLine false)
  have hbody := c.mode.body_append_afterBody c.remaining
  exact List.append_cancel_left (htake.trans hbody.symm)

theorem check_lineBreak_of_some {c : Cursor} {terminator : Text}
    (h : c.mode.terminator? c.remaining = some terminator) :
    c.check .lineBreak = (.ok terminator, c.advance terminator.length) := by
  have hne : ¬ c.remaining.isEmpty = true := by
    intro hempty
    rw [List.isEmpty_iff.mp hempty] at h
    cases h
  have hpiece : Check.lineBreak.piece c.mode c.remaining = .ok terminator := by
    rw [Check.piece, if_neg hne, h]
  exact check_of_ok hpiece

theorem check_lineBreak_of_isEof {c : Cursor} (h : c.isEof = true) :
    c.check .lineBreak = (.error ⟨.outOfRange, c.offset⟩, c) := by
  have hpiece : Check.lineBreak.piece c.mode c.remaining = .error .outOfRange := if_pos h
  exact check_of_error hpiece

/-- Behind the body of a line stands its terminator, or the text has ended. -/
theorem check_lineBreak_behind_body (c : Cursor) :
    let atEnd := (c.take (.restOfLine false)).2
    (∃ terminator, c.mode.terminator? (c.mode.afterBody c.remaining) = some terminator ∧
        atEnd.check .lineBreak = (.ok terminator, atEnd.advance terminator.length)) ∨
      c.mode.terminator? (c.mode.afterBody c.remaining) = none ∧ atEnd.isEof = true ∧
        atEnd.check .lineBreak = (.error ⟨.outOfRange, atEnd.offset⟩, atEnd) := by
  intro atEnd
  have hremaining : atEnd.remaining = c.mode.afterBody c.remaining := c.remaining_take_body
  cases h : c.mode.terminator? (c.mode.afterBody c.remaining) with
  | some terminator =>
    rw [← hremaining] at h
    exact .inl ⟨terminator, rfl, check_lineBreak_of_some h⟩
  | none =>
    have happend := c.mode.body_append_afterBody c.remaining
    rw [LineBreakMode.body_eq_self h] at happend
    have heof : atEnd.isEof = true := by
      rw [isEof, hremaining, List.append_right_eq_self.mp happend]
      rfl
    exact .inr ⟨rfl, heof, check_lineBreak_of_isEof heof⟩

/-- The terminator behind the body of a line is taken, or there is none, so that the
cursor stands behind the line. -/
theorem check_lineBreak_eq_take (c : Cursor) :
    ((c.take (.restOfLine false)).2.check .lineBreak).2 = (c.take (.restOfLine true)).2 := by
  have hline : Run.piece c.mode c.remaining (.restOfLine true) = c.mode.body c.remaining ++
      (c.mode.terminator? (c.mode.afterBody c.remaining)).getD [] := rfl
  rcases c.check_lineBreak_behind_body with ⟨terminator, hsome, hcheck⟩ | ⟨hnone, _, hcheck⟩
  · rw [hsome, Option.getD_some] at hline
    rw [hcheck, take, take, hline, List.length_append, ← advance_advance]
    rfl
  · rw [hnone, Option.getD_none, List.append_nil] at hline
    rw [hcheck, take, take, hline]
    rfl

theorem length_take_line_lt {c : Cursor} (h : c.isEof = false) :
    (c.take (.restOfLine true)).2.remaining.length < c.remaining.length := by
  have hne : c.remaining ≠ [] := by
    intro hnil
    rw [isEof, hnil] at h
    cases h
  have happend : c.mode.line true c.remaining ++ (c.take (.restOfLine true)).2.remaining =
      c.remaining := c.append_remaining_take (.restOfLine true)
  have hline := List.length_pos_iff.mpr (c.mode.line_ne_nil hne)
  have hlength := congrArg List.length happend
  rw [List.length_append] at hlength
  omega

end LexScan.Cursor
