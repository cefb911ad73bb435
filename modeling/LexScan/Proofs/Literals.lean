import LexScan.Proofs.FixedWidth
import LexScan.Proofs.OffsetAgreement
import LexScan.Proofs.UnicodeDecoding

/-!
# Literals and their widths

A literal can be asked for in two ways: compare what follows with it, or cut out as many
characters as it has and look at them. Both agree, down to the reason of a failure: it is
too short a text exactly if fewer characters remain than the literal has, and a mismatch
exactly if there are enough but others. The comparison may as well be one of bytes, since no
character's bytes in UTF-8 begin those of another. A single character is a literal of width
one, and any character is the width one alone.
-/

namespace LexScan

namespace Utf

theorem encode_append (f : Utf) (s t : Text) :
    f.encode (s ++ t) = f.encode s ++ f.encode t := List.flatMap_append

theorem encode_isPrefix_iff (f : Utf) {s t : Text} : f.encode s <+: f.encode t ↔ s <+: t :=
  f.reads.flatMap_isPrefix_iff

theorem length_encode_utf8 (t : Text) : (utf8.encode t).length = t.size := by
  induction t with
  | nil => rfl
  | cons c t ih =>
    have hc : (String.utf8EncodeChar c).length = c.utf8Size := String.length_utf8EncodeChar c
    have happend : utf8.encode (c :: t) = String.utf8EncodeChar c ++ utf8.encode t := rfl
    rw [happend, List.length_append, hc, ih, Text.size_cons]

/-- A boundary of a text is where the bytes of the rest begin. -/
theorem drop_encode_utf8 {t r : Text} {n : Nat} (h : t.from? n = some r) :
    (utf8.encode t).drop n = utf8.encode r := by
  obtain ⟨s, rfl, rfl⟩ := Text.from?_eq_some_iff.mp h
  rw [encode_append, ← length_encode_utf8, List.drop_left]

end Utf

namespace Cursor

variable {α : Type}

/-- The result of looking for `s` at an offset, given the text of its width there. -/
def compared (s : Text) (offset : Nat) (found : α) :
    Except ScanError Text → Except ScanError α
  | .ok u => if u = s then .ok found else .error ⟨.noMatch, offset⟩
  | .error _ => .error ⟨.outOfRange, offset⟩

/-- A result of looking for `s` beside the text of its width: it is found where this is `s`,
out of range where there is no such text, and a mismatch where it is another. -/
structure AgreesByWidth (s : Text) (offset : Nat) (peeked : Except ScanError Text) (found : α)
    (result : Except ScanError α) : Prop where
  ok_iff : result = .ok found ↔ peeked = .ok s
  outOfRange_iff : result = .error ⟨.outOfRange, offset⟩ ↔ ∃ e, peeked = .error e
  noMatch_iff : result = .error ⟨.noMatch, offset⟩ ↔ ∃ u, u ≠ s ∧ peeked = .ok u

theorem agreesByWidth_compared (s : Text) (offset : Nat) (peeked : Except ScanError Text)
    (found : α) : AgreesByWidth s offset peeked found (compared s offset found peeked) := by
  cases peeked with
  | error e => constructor <;> simp [compared]
  | ok u =>
    by_cases hu : u = s
    · constructor <;> simp [compared, hu]
    · constructor <;> simp [compared, hu]

/-! ## On a cursor -/

theorem take_eq_iff {s t : Text} : t.take s.length = s ↔ s <+: t := by
  rw [List.prefix_iff_eq_take]
  exact eq_comm

/-- A literal is what its width would be, compared with it. -/
theorem check_literal_eq (c : Cursor) (s : Text) : (c.check (.literal s)).1 =
    compared s c.offset s (c.check (.peekHorizon s.length)).1 := by
  rcases Nat.lt_or_ge c.remaining.length s.length with hlt | hle
  · have hstart : ¬ s <+: c.remaining := fun h => Nat.not_le.mpr hlt h.length_le
    have hpiece : (Check.literal s).piece c.mode c.remaining = .error .outOfRange := by
      rw [Check.piece, matchLiteral, if_neg (mt List.isPrefixOf_iff_prefix.mp hstart), if_pos]
      rw [List.length_take]
      omega
    rw [(not_fits hlt).2.1.cursor, check_of_error hpiece]
    rfl
  · rw [(horizon_fits hle).2.cursor]
    by_cases hstart : s <+: c.remaining
    · rw [check_literal_of_isPrefix hstart, compared, if_pos (take_eq_iff.mpr hstart)]
    · have hpiece : (Check.literal s).piece c.mode c.remaining = .error .noMatch := by
        rw [Check.piece, matchLiteral, if_neg (mt List.isPrefixOf_iff_prefix.mp hstart), if_neg]
        rw [List.length_take]
        omega
      rw [check_of_error hpiece, compared, if_neg (mt take_eq_iff.mp hstart)]

theorem peekHorizon_fails_iff (c : Cursor) (n : Nat) :
    (∃ e, (c.check (.peekHorizon n)).1 = .error e) ↔ c.remaining.length < n := by
  rcases Nat.lt_or_ge c.remaining.length n with hlt | hle
  · rw [(not_fits hlt).2.1.cursor]
    simp [hlt]
  · rw [(horizon_fits hle).2.cursor]
    simp [Nat.not_lt.mpr hle]

theorem check_literal_ok_iff (c : Cursor) (s : Text) :
    (c.check (.literal s)).1 = .ok s ↔ s <+: c.remaining := by
  constructor
  · intro h
    by_cases hstart : s <+: c.remaining
    · exact hstart
    · obtain ⟨e, he⟩ := check_literal_of_not_isPrefix hstart
      rw [he] at h
      cases h
  · intro h
    rw [check_literal_of_isPrefix h]

/-- Where a literal is found, the cursor comes to stand as behind its width. -/
theorem literal_moves_by_width {c : Cursor} {s : Text} (h : s <+: c.remaining) :
    (c.check (.literal s)).2 = (c.check (.horizon s.length)).2 := by
  rw [check_literal_of_isPrefix h, (horizon_fits h.length_le).1.cursor]

theorem check_char_eq (c : Cursor) (x : Char) : c.check (.char x) = c.check (.literal [x]) := by
  have hpiece : (Check.char x).piece c.mode c.remaining =
      (Check.literal [x]).piece c.mode c.remaining := by
    cases c.remaining with
    | nil => rfl
    | cons y t =>
      by_cases hy : y = x
      · simp [Check.piece, matchLiteral, hy]
      · have hx : ¬ x = y := fun h => hy h.symm
        simp [Check.piece, matchLiteral, hy, hx]
  rw [check, check, hpiece]
  rfl

theorem check_anyChar_eq (c : Cursor) : c.check .anyChar = c.check (.horizon 1) := by
  have hpiece : Check.anyChar.piece c.mode c.remaining =
      (Check.horizon 1).piece c.mode c.remaining := by
    cases c.remaining with
    | nil => rfl
    | cons y t => simp [Check.piece]
  rw [check, check, hpiece]
  rfl

/-! ## From an offset -/

theorem literalLogged_eq (c : Cursor) (s : Text) :
    (OffsetScan.literalLogged c.input c.offset s).value =
      compared s c.offset s (c.check (.peekHorizon s.length)).1 := by
  rw [OffsetScan.value_literalLogged, OffsetScan.literal_eq, check_literal_eq]

theorem skipLiteralLogged_eq (c : Cursor) (s : Text) :
    (OffsetScan.skipLiteralLogged c.input c.offset s).value =
      compared s c.offset (c.check (.horizon s.length)).2.offset
        (c.check (.peekHorizon s.length)).1 := by
  rw [OffsetScan.value_skipLiteralLogged, OffsetScan.skipLiteral_eq]
  by_cases hstart : s <+: c.remaining
  · rw [literal_moves_by_width hstart, check_literal_of_isPrefix hstart,
      (horizon_fits hstart.length_le).2.cursor, compared, if_pos (take_eq_iff.mpr hstart)]
    rfl
  · have hfail : (c.check (.literal s)).1 ≠ .ok s := mt (c.check_literal_ok_iff s).mp hstart
    rw [check_literal_eq] at hfail ⊢
    cases hpeek : (c.check (.peekHorizon s.length)).1 with
    | error e => rfl
    | ok u =>
      rw [hpeek] at hfail
      by_cases hu : u = s
      · exact absurd (if_pos hu) hfail
      · simp only [compared, if_neg hu]
        rfl

/-- Looking for a literal agrees with cutting out its width. On every cursor, and from every
boundary of a text with the offset scanners, it is found exactly where the next characters,
as many as it has, are the literal itself; it runs out of range exactly where there are not
so many characters left, whatever these are; it is a mismatch exactly where they are others.
The cursor and the offset then stand where the width would have led. It makes no difference
whether characters or their bytes in UTF-8 are compared. One character is sought as the
literal of this character is, and any character is taken as the width one is. -/
theorem literal_agrees_with_width (s : Text) :
    (∀ c : Cursor, let peeked := (c.check (.peekHorizon s.length)).1
      AgreesByWidth s c.offset peeked s (c.check (.literal s)).1 ∧
      ((∃ e, peeked = .error e) ↔ c.remaining.length < s.length) ∧
      ((c.check (.literal s)).1 = .ok s →
        (c.check (.literal s)).2 = (c.check (.horizon s.length)).2) ∧
      ((c.check (.literal s)).1 = .ok s ↔
        Utf.utf8.encode s <+: (Utf.utf8.encode c.input).drop c.offset)) ∧
    (∀ mode t offset, t.IsBoundary offset → ∃ c : Cursor,
      (start mode t).setPosition offset = (.ok (), c) ∧
      let peeked := (c.check (.peekHorizon s.length)).1
      AgreesByWidth s offset peeked s (OffsetScan.literalLogged t offset s).value ∧
      AgreesByWidth s offset peeked (c.check (.horizon s.length)).2.offset
        (OffsetScan.skipLiteralLogged t offset s).value) ∧
    (∀ (c : Cursor) x, c.check (.char x) = c.check (.literal [x])) ∧
    ∀ c : Cursor, c.check .anyChar = c.check (.horizon 1) := by
  refine ⟨?_, ?_, check_char_eq, check_anyChar_eq⟩
  · intro c peeked
    have hagrees := agreesByWidth_compared s c.offset peeked s
    rw [← check_literal_eq] at hagrees
    refine ⟨hagrees, c.peekHorizon_fails_iff s.length, ?_, ?_⟩
    · intro h
      exact literal_moves_by_width ((c.check_literal_ok_iff s).mp h)
    · rw [check_literal_ok_iff, Utf.drop_encode_utf8 c.from?_offset, Utf.encode_isPrefix_iff]
  · intro mode t offset h
    obtain ⟨c, rfl, rfl, rfl⟩ := exists_of_isBoundary mode h
    refine ⟨c, setPosition_offset rfl rfl, ?_, ?_⟩
    · have hagrees := agreesByWidth_compared s c.offset (c.check (.peekHorizon s.length)).1 s
      rwa [← literalLogged_eq] at hagrees
    · have hagrees := agreesByWidth_compared s c.offset (c.check (.peekHorizon s.length)).1
        (c.check (.horizon s.length)).2.offset
      rwa [← skipLiteralLogged_eq] at hagrees

/-- At the last two characters of three: a mismatch in as many bytes, a literal that is a
character too long, and one that fits. -/
theorem literal_agrees_with_width_near_end :
    let c : Cursor := ⟨['n', 'ï', 'é'], .ascii, 1, ['ï', 'é'], rfl⟩
    (c.check (.literal ['é', 'ï'])).1 = .error ⟨.noMatch, 1⟩ ∧
    (c.check (.literal ['ï', 'é', 'e'])).1 = .error ⟨.outOfRange, 1⟩ ∧
    (OffsetScan.skipLiteralLogged c.input 1 ['ï', 'é']).value = .ok 5 := by
  intro c
  have hmismatch := ((literal_agrees_with_width ['é', 'ï']).1 c).1
  have hlong := ((literal_agrees_with_width ['ï', 'é', 'e']).1 c).1
  obtain ⟨d, hd, _, hskip⟩ :=
    (literal_agrees_with_width ['ï', 'é']).2.1 .ascii ['n', 'ï', 'é'] 1 (by decide)
  obtain rfl : c = d := (Prod.mk.inj ((setPosition_of_from? rfl).symm.trans hd)).2
  exact ⟨hmismatch.noMatch_iff.mpr ⟨['ï', 'é'], by decide, rfl⟩,
    hlong.outOfRange_iff.mpr ⟨_, rfl⟩, hskip.ok_iff.mpr rfl⟩

end Cursor

end LexScan
