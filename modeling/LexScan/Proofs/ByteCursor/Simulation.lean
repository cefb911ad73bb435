import LexScan.Cursor.Call.Lemmas
import LexScan.Proofs.ByteCursor

/-!
# Cursors and their bytes

Without its remaining text a cursor is a bare byte offset. Every call commutes with
forgetting the text: the cuts of the bare offset can all be made, its answer is the
answer of the cursor, and so is the offset after it. What is compared are lengths in
bytes on the one side and pieces of a list on the other.
-/

namespace LexScan

namespace Text

/-! ## Indices of bytes -/

theorem failAt?_eq (test : Char → Bool) (t : Text) :
    t.failAt? test =
      if t.dropWhile test = [] then none else some (size (t.takeWhile test)) := by
  induction t with
  | nil => rfl
  | cons c t ih =>
    by_cases hc : test c = true
    · rw [failAt?, if_pos hc, ih, List.dropWhile_cons_of_pos hc, List.takeWhile_cons_of_pos hc]
      split <;> simp
    · rw [failAt?, if_neg hc, List.dropWhile_cons_of_neg hc, List.takeWhile_cons_of_neg hc]
      simp

/-- The first break character stands behind the body of the first line. -/
theorem failAt?_isBreak (mode : LineBreakMode) (t : Text) :
    t.failAt? (!mode.isBreak ·) =
      if mode.afterBody t = [] then none else some (mode.body t).size := failAt?_eq _ t

theorem size_elim_failAt? (test : Char → Bool) (t : Text) (n : Nat) :
    (t.failAt? test).elim (n + t.size) (n + ·) = n + size (t.takeWhile test) := by
  have hall := List.takeWhile_append_dropWhile (p := test) (l := t)
  rw [failAt?_eq]
  split
  · next hnil =>
    rw [hnil, List.append_nil] at hall
    rw [hall]
    rfl
  · rfl

theorem size_elim_needleAt? (needle t : Text) (n : Nat) :
    (needleAt? needle t).elim (n + t.size) (n + ·) = n + size (before needle t) := by
  induction t generalizing n with
  | nil =>
    rw [needleAt?, before]
    split <;> rfl
  | cons c t ih =>
    rw [needleAt?, before]
    split
    · rfl
    · have h := ih (n + c.utf8Size)
      cases hat : needleAt? needle t with
      | none => simpa [hat, Nat.add_assoc] using h
      | some i => simpa [hat, Nat.add_assoc] using h

theorem afterChars?_eq (n : Nat) (t : Text) :
    t.afterChars? n = if n ≤ t.length then some (size (t.take n)) else none := by
  induction t generalizing n with
  | nil => cases n <;> simp [afterChars?]
  | cons c t ih =>
    cases n with
    | zero => simp [afterChars?]
    | succ n =>
      rw [afterChars?, ih]
      by_cases hn : n ≤ t.length
      · simp [hn]
      · simp [hn]

theorem size_take_le (t : Text) (n : Nat) : size (t.take n) ≤ t.size := by
  have h := size_append (t.take n) (t.drop n)
  rw [List.take_append_drop] at h
  omega

/-- Of an initial piece and the first `n` characters, the shorter in bytes is the
one with fewer characters. -/
theorem min_size_take {w t : Text} (h : w <+: t) (n : Nat) :
    min w.size (size (t.take n)) = size (w.take n) := by
  obtain ⟨u, rfl⟩ := h
  rw [List.take_append, size_append]
  by_cases hn : n ≤ w.length
  · have hle := size_take_le w n
    rw [Nat.sub_eq_zero_of_le hn, List.take_zero, size_nil]
    omega
  · rw [List.take_of_length_le (by omega)]
    omega

end Text

namespace ByteCursor

/-! ## Positions -/

theorem positionFrom?_of_terminator {mode : LineBreakMode} {t r terminator : Text}
    {stop n : Nat} (hn : n < stop) (hr : t.from? n = some r)
    (h : mode.terminator? r = some terminator) (p : TextPosition) :
    positionFrom? mode t stop n p =
      positionFrom? mode t stop (n + terminator.size) p.nextLine := by
  rw [positionFrom?, if_pos hn, hr]
  dsimp only
  split
  · next found hfound =>
    obtain rfl := Option.some.inj (hfound.symm.trans h)
    rfl
  · next hnone =>
    rw [hnone] at h
    cases h

theorem positionFrom?_of_char {mode : LineBreakMode} {t u : Text} {x : Char}
    {stop n : Nat} (hn : n < stop) (hr : t.from? n = some (x :: u))
    (h : mode.terminator? (x :: u) = none) (p : TextPosition) :
    positionFrom? mode t stop n p =
      positionFrom? mode t stop (n + x.utf8Size) p.nextColumn := by
  rw [positionFrom?, if_pos hn, hr]
  dsimp only
  split
  · next found hfound =>
    rw [h] at hfound
    cases hfound
  · rfl

theorem positionFrom?_eq {mode : LineBreakMode} {t r : Text} {stop n : Nat}
    (h : t.from? n = some r) (hstop : stop ≤ t.size) (p : TextPosition) :
    positionFrom? mode t stop n p = some (TextPosition.walk mode r (stop - n) p) := by
  have hsize := Text.size_of_from? h
  obtain ⟨k, hk⟩ : ∃ k, k = stop - n := ⟨_, rfl⟩
  rw [← hk]
  fun_induction TextPosition.walk mode r k p generalizing n with
  | case1 r p =>
    rw [positionFrom?, if_neg (by omega)]
  | case2 k p =>
    rw [Text.size_nil] at hsize
    omega
  | case3 u k p ih =>
    have hterm : mode.terminator? ('\r' :: '\n' :: u) = some ['\r', '\n'] := by
      simp [LineBreakMode.terminator?]
    have hnext : t.from? (n + 2) = some u := Text.from?_add_take h 2
    have htwo : Text.size ['\r', '\n'] = 2 := rfl
    rw [positionFrom?_of_terminator (by omega) h hterm, htwo]
    exact ih hnext (Text.size_of_from? hnext) (by omega)
  | case4 x u k p hcr ih =>
    have halone : ¬ (x = '\r' ∧ u.head? = some '\n') := by
      rintro ⟨hx, hu⟩
      obtain ⟨v, hv⟩ := List.head?_eq_some_iff.mp hu
      exact hcr v hx hv
    have hterm := mode.terminator?_of_not_crlf halone
    have hnext : t.from? (n + x.utf8Size) = some u := by
      simpa using Text.from?_add_take h 1
    have hstep := ih hnext (Text.size_of_from? hnext) (by omega)
    by_cases hx : mode.isBreak x = true
    · rw [if_pos hx] at hterm hstep ⊢
      have hone : Text.size [x] = x.utf8Size := Nat.add_zero _
      rw [positionFrom?_of_terminator (by omega) h hterm, hone, hstep]
    · rw [if_neg hx] at hterm hstep ⊢
      rw [positionFrom?_of_char (by omega) h hterm, hstep]

end ByteCursor

namespace Cursor

/-- The cursor without its remaining text. -/
def bytes (c : Cursor) : ByteCursor := ⟨c.input, c.mode, c.offset⟩

@[simp] theorem input_bytes (c : Cursor) : c.bytes.input = c.input := rfl

@[simp] theorem mode_bytes (c : Cursor) : c.bytes.mode = c.mode := rfl

@[simp] theorem offset_bytes (c : Cursor) : c.bytes.offset = c.offset := rfl

@[simp] theorem rest?_bytes (c : Cursor) : c.bytes.rest? = some c.remaining := c.from?_offset

theorem cutTo?_bytes {c : Cursor} {piece : Text} (h : piece <+: c.remaining) :
    c.bytes.cutTo? (c.offset + piece.size) =
      some (piece, (c.advance piece.length).bytes) := by
  have hslice := Text.slice?_of_prefix c.from?_offset h
  simp [ByteCursor.cutTo?, hslice, bytes, offset_advance h]

/-! ## Runs -/

theorem lineBounds?_bytes (c : Cursor) :
    c.bytes.lineBounds? =
      some (c.offset + (c.mode.line false c.remaining).size,
        c.offset + (c.mode.line true c.remaining).size) := by
  have hall := c.mode.body_append_afterBody c.remaining
  have hfail := Text.failAt?_isBreak c.mode c.remaining
  rw [ByteCursor.lineBounds?, rest?_bytes]
  cases hafter : c.mode.afterBody c.remaining with
  | nil =>
    rw [hafter, List.append_nil] at hall
    rw [if_pos hafter] at hfail
    simp [hfail, LineBreakMode.line, hafter, hall, LineBreakMode.terminator?, size_input]
  | cons x u =>
    obtain ⟨terminator, hterm⟩ :=
      LineBreakMode.exists_terminator? (LineBreakMode.isBreak_of_afterBody hafter) u
    have hcut := c.mode.from?_body c.remaining
    rw [hafter] at hcut
    have hne : ¬ c.mode.afterBody c.remaining = [] := by
      simp [hafter]
    rw [if_neg hne] at hfail
    simp [hfail, LineBreakMode.line, hafter, hcut, hterm]

theorem runEnd?_bytes (c : Cursor) (r : Run) :
    c.bytes.runEnd? r = some (c.offset + (r.piece c.mode c.remaining).size) := by
  cases r with
  | satisfying test =>
    have h := Text.size_elim_failAt? test c.remaining c.offset
    rw [← size_input] at h
    simp [ByteCursor.runEnd?, Run.piece, h]
  | till needle =>
    have h := Text.size_elim_needleAt? needle c.remaining c.offset
    rw [← size_input] at h
    simp [ByteCursor.runEnd?, Run.piece, h]
  | restOfLine withTerminator =>
    rw [ByteCursor.runEnd?, lineBounds?_bytes]
    cases withTerminator <;> rfl

theorem take?_bytes (c : Cursor) (r : Run) :
    c.bytes.take? r = some ((c.take r).1, (c.take r).2.bytes) := by
  rw [ByteCursor.take?, runEnd?_bytes]
  exact cutTo?_bytes (r.piece_prefix c.mode c.remaining)

/-! ## Checks -/

/-- The bare offset succeeds with an initial piece as the cursor does. -/
theorem succeed_cutTo?_bytes {c : Cursor} {k : Check} {piece : Text} (hk : k.moves = true)
    (h : k.piece c.mode c.remaining = .ok piece) :
    ByteCursor.succeed <$> c.bytes.cutTo? (c.offset + piece.size) =
      some ((c.check k).1, (c.check k).2.bytes) := by
  rw [cutTo?_bytes (Check.piece_prefix h), check_of_ok h, if_pos hk]
  rfl

theorem pass_bytes {c : Cursor} {k : Check} {x : Char} {u : Text} (hk : k.moves = true)
    (hx : c.remaining = x :: u) (h : k.piece c.mode c.remaining = .ok [x]) :
    c.bytes.pass x = some ((c.check k).1, (c.check k).2.bytes) := by
  rw [check_of_ok h, if_pos hk]
  simp [ByteCursor.pass, bytes, advance, hx]

theorem fail_bytes {c : Cursor} {k : Check} {failure : ScanFailure}
    (h : k.piece c.mode c.remaining = .error failure) :
    c.bytes.fail failure = some ((c.check k).1, (c.check k).2.bytes) := by
  rw [check_of_error h]
  rfl

theorem check?_bytes (c : Cursor) (k : Check) :
    c.bytes.check? k = some ((c.check k).1, (c.check k).2.bytes) := by
  cases k with
  | many1 x =>
    by_cases hx : c.remaining.head? = some x
    · have hpiece : (Check.many1 x).piece c.mode c.remaining =
          .ok (c.remaining.takeWhile (· == x)) := if_pos hx
      have hend := c.runEnd?_bytes (.satisfying (· == x))
      simpa [ByteCursor.check?, ByteCursor.take?, hx, hend, Run.piece] using
        succeed_cutTo?_bytes rfl hpiece
    · have hpiece : (Check.many1 x).piece c.mode c.remaining = .error .noMatch := if_neg hx
      simpa [ByteCursor.check?, hx] using fail_bytes hpiece
  | count n x =>
    by_cases hn : n ≤ c.remaining.length
    · have hpiece : (Check.count n x).piece c.mode c.remaining =
          .ok ((c.remaining.takeWhile (· == x)).take n) := if_pos hn
      have hend := c.runEnd?_bytes (.satisfying (· == x))
      have hmin := Text.min_size_take (List.takeWhile_prefix (l := c.remaining) (· == x)) n
      simpa [ByteCursor.check?, Text.afterChars?_eq, hn, hend, Run.piece, hmin] using
        succeed_cutTo?_bytes rfl hpiece
    · have hpiece : (Check.count n x).piece c.mode c.remaining = .error .outOfRange :=
        if_neg hn
      simpa [ByteCursor.check?, Text.afterChars?_eq, hn] using fail_bytes hpiece
  | char x =>
    cases hr : c.remaining with
    | nil =>
      have hpiece : (Check.char x).piece c.mode c.remaining = .error .outOfRange := by
        rw [hr]
        rfl
      simpa [ByteCursor.check?, hr] using fail_bytes hpiece
    | cons y u =>
      by_cases hy : y = x
      · have hpiece : (Check.char x).piece c.mode c.remaining = .ok [y] := by
          rw [hr]
          exact if_pos hy
        simpa [ByteCursor.check?, hr, hy] using pass_bytes rfl hr hpiece
      · have hpiece : (Check.char x).piece c.mode c.remaining = .error .noMatch := by
          rw [hr]
          exact if_neg hy
        simpa [ByteCursor.check?, hr, hy] using fail_bytes hpiece
  | anyChar =>
    cases hr : c.remaining with
    | nil =>
      have hpiece : Check.anyChar.piece c.mode c.remaining = .error .outOfRange := by
        rw [hr]
        rfl
      simpa [ByteCursor.check?, hr] using fail_bytes hpiece
    | cons y u =>
      have hpiece : Check.anyChar.piece c.mode c.remaining = .ok [y] := by
        rw [hr]
        rfl
      simpa [ByteCursor.check?, hr] using pass_bytes rfl hr hpiece
  | literal s =>
    cases hs : matchLiteral s c.remaining with
    | ok found => simpa [ByteCursor.check?, hs] using succeed_cutTo?_bytes (k := .literal s) rfl hs
    | error failure => simpa [ByteCursor.check?, hs] using fail_bytes (k := .literal s) hs
  | horizon n =>
    by_cases hn : n ≤ c.remaining.length
    · have hpiece : (Check.horizon n).piece c.mode c.remaining =
          .ok (c.remaining.take n) := if_pos hn
      simpa [ByteCursor.check?, Text.afterChars?_eq, hn] using
        succeed_cutTo?_bytes rfl hpiece
    · have hpiece : (Check.horizon n).piece c.mode c.remaining = .error .outOfRange :=
        if_neg hn
      simpa [ByteCursor.check?, Text.afterChars?_eq, hn] using fail_bytes hpiece
  | peekHorizon n =>
    by_cases hn : n ≤ c.remaining.length
    · have hpiece : (Check.peekHorizon n).piece c.mode c.remaining =
          .ok (c.remaining.take n) := if_pos hn
      have hcut := cutTo?_bytes (Check.piece_prefix hpiece)
      rw [check_of_ok hpiece]
      simp [ByteCursor.check?, Text.afterChars?_eq, hn, hcut, Check.moves]
    · have hpiece : (Check.peekHorizon n).piece c.mode c.remaining = .error .outOfRange :=
        if_neg hn
      simpa [ByteCursor.check?, Text.afterChars?_eq, hn] using fail_bytes hpiece
  | lookingAt p =>
    cases hp : p.atStart? c.remaining with
    | some found =>
      have hpiece : (Check.lookingAt p).piece c.mode c.remaining = .ok found := by
        rw [Check.piece, hp]
      have hfind := Pattern.atStart?_eq_some_iff.mp hp
      simpa [ByteCursor.check?, hfind] using succeed_cutTo?_bytes rfl hpiece
    | none =>
      have hpiece : (Check.lookingAt p).piece c.mode c.remaining = .error .noMatch := by
        rw [Check.piece, hp]
      rw [← fail_bytes hpiece, ByteCursor.check?, rest?_bytes]
      -- a match further on has something before it
      cases hfind : p.find? c.remaining with
      | none => simp [hfind]
      | some m =>
        obtain ⟨before, found⟩ := m
        cases before with
        | nil =>
          have := Pattern.atStart?_eq_some_iff.mpr hfind
          rw [hp] at this
          cases this
        | cons x u => simp [hfind]
  | lineBreak =>
    by_cases heof : c.isEof = true
    · have hpiece : Check.lineBreak.piece c.mode c.remaining = .error .outOfRange :=
        if_pos heof
      have hend := c.isEof_iff.mp heof
      simpa [ByteCursor.check?, hend] using fail_bytes hpiece
    · have hend : ¬ c.input.size ≤ c.offset := fun h => heof (c.isEof_iff.mpr h)
      cases hterm : c.mode.terminator? c.remaining with
      | some terminator =>
        have hpiece : Check.lineBreak.piece c.mode c.remaining = .ok terminator := by
          rw [Check.piece, hterm]
          exact if_neg heof
        simpa [ByteCursor.check?, hend, hterm] using succeed_cutTo?_bytes rfl hpiece
      | none =>
        have hpiece : Check.lineBreak.piece c.mode c.remaining = .error .noMatch := by
          rw [Check.piece, hterm]
          exact if_neg heof
        simpa [ByteCursor.check?, hend, hterm] using fail_bytes hpiece

/-! ## Calls -/

theorem textPosition?_bytes (c : Cursor) : c.bytes.textPosition? = some c.textPosition := by
  have hsize := c.size_input
  have hmin : min c.offset c.input.size = c.offset := by omega
  rw [ByteCursor.textPosition?, input_bytes, mode_bytes, offset_bytes, hmin]
  exact ByteCursor.positionFrom?_eq (Text.from?_zero _) (by omega) _

theorem answerCheck?_bytes (c : Cursor) (k : Check) :
    c.bytes.answerCheck? k =
      some ((c.answerCheck k).value.1, (c.answerCheck k).value.2.bytes) := by
  rw [ByteCursor.answerCheck?, check?_bytes, value_answerCheck]
  obtain ⟨result, after⟩ := c.check k
  cases result <;> rfl

theorem setPosition_bytes (c : Cursor) (n : Nat) :
    c.bytes.setPosition n =
      ((call c (.setPosition n)).value.1, (call c (.setPosition n)).value.2.bytes) := by
  rw [ByteCursor.setPosition, input_bytes]
  by_cases h : c.input.IsBoundary n
  · obtain ⟨r, hr⟩ := Option.isSome_iff_exists.mp h
    have hle := h.le_size
    rw [value_call_setPosition hr, if_neg (by simp [h, hle])]
    rfl
  · rw [value_call_setPosition_refused h, if_pos (Or.inr h)]
    rfl

mutual

/-- Every call on the bare offset makes all its cuts, and answers what the same call
on the cursor answers. -/
theorem call?_bytes (c : Cursor) : (k : Call) →
    c.bytes.call? k = some ((call c k).value.1, (call c k).value.2.bytes)
  | .position => by simp [ByteCursor.call?, call]
  | .remaining => by simp [ByteCursor.call?, call]
  | .input => by simp [ByteCursor.call?, call]
  | .isEof => by
    have h : decide (c.input.size ≤ c.offset) = c.isEof := by
      rw [Bool.eq_iff_iff, decide_eq_true_iff, isEof_iff]
    rw [ByteCursor.call?, call, input_bytes, offset_bytes, h]
    rfl
  | .lineBreaks => by simp [ByteCursor.call?, call]
  | .peekChar => by simp [ByteCursor.call?, call, peekChar]
  | .peekRestOfLine => by
    have hcut := cutTo?_bytes (c.mode.line_prefix false c.remaining)
    simp [ByteCursor.call?, call, lineBounds?_bytes, hcut]
    rfl
  | .textPosition => by simp [ByteCursor.call?, call, textPosition?_bytes]
  | .setPosition n => by rw [ByteCursor.call?, setPosition_bytes]
  | .take r => by simp [ByteCursor.call?, call, take?_bytes]
  | .skip r => by simp [ByteCursor.call?, call, take?_bytes, skip]
  | .skipWhiteSpace => by simp [ByteCursor.call?, call, take?_bytes]
  | .whiteSpace1 => by simp [ByteCursor.call?, call, take?_bytes]
  | .check k => by rw [ByteCursor.call?, call, answerCheck?_bytes]
  | .lookingAt none => by simp [ByteCursor.call?, call]
  | .lookingAt (some p) => by rw [ByteCursor.call?, call, answerCheck?_bytes]
  | .clone inner => by simp [ByteCursor.call?, call, calls?_bytes c inner]

/-- Every run of calls on the bare offset makes all its cuts, and answers what the
same run on the cursor answers, offsets included. -/
theorem calls?_bytes (c : Cursor) : (ks : List Call) →
    c.bytes.calls? ks = some ((calls c ks).value.1, (calls c ks).value.2.bytes)
  | [] => rfl
  | k :: ks => by
    simp [ByteCursor.calls?, calls, call?_bytes c k, calls?_bytes _ ks]

end

end Cursor

end LexScan
