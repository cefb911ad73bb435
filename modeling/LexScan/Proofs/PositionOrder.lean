import LexScan.Proofs.Positions
import Mathlib.Order.Defs.PartialOrder

/-!
# The order of positions

Positions are ordered by line and then by column. Going on in a text never leads back: the
position stays the same as long as no unit starts, that is no terminator and no other
character, and is a later one as soon as one does. And positions add up: from an offset that
divides no unit on, a text is read as if it started there.
-/

namespace LexScan

namespace Text

/-- A terminator or another character starts at an offset, CRLF as one. -/
def UnitStartsAt (t : Text) (n : Nat) : Prop :=
  ∃ s u rest, t = s ++ (u ++ rest) ∧ n = s.size ∧ IsUnit u rest ∧
    ¬ (s.getLast? = some '\r' ∧ (u ++ rest).head? = some '\n')

variable {t u rest : Text} {n : Nat}

/-- Units start at all stops but the end. -/
theorem unitStartsAt_iff : t.UnitStartsAt n ↔ t.IsStop n ∧ n < t.size := by
  constructor
  · rintro ⟨s, u, rest, rfl, rfl, hunit, hcrlf⟩
    have hpos := hunit.size_pos
    refine ⟨⟨s, u ++ rest, rfl, rfl, hcrlf⟩, ?_⟩
    rw [size_append, size_append]
    omega
  · rintro ⟨⟨s, r, rfl, rfl, hcrlf⟩, hlt⟩
    have hr : r ≠ [] := by
      rintro rfl
      rw [List.append_nil] at hlt
      exact Nat.lt_irrefl _ hlt
    obtain ⟨u, rest, rfl, hunit⟩ := exists_unit hr
    exact ⟨s, u, rest, rfl, rfl, hunit, hcrlf⟩

theorem not_unitStartsAt_nil (n : Nat) : ¬ UnitStartsAt [] n :=
  fun h => Nat.not_lt_zero n (unitStartsAt_iff.mp h).2

/-- The first unit starts at the start, and behind it start those of the rest. -/
theorem unitStartsAt_unit_iff (h : IsUnit u rest) :
    (u ++ rest).UnitStartsAt n ↔ n = 0 ∨ ∃ m, n = u.size + m ∧ rest.UnitStartsAt m := by
  have hpos := h.size_pos
  simp only [unitStartsAt_iff, isStop_unit_iff h, size_append]
  constructor
  · rintro ⟨rfl | ⟨m, rfl, hm⟩, hlt⟩
    · exact .inl rfl
    · exact .inr ⟨m, rfl, hm, by omega⟩
  · rintro (rfl | ⟨m, rfl, hm, hlt⟩)
    · exact ⟨.inl rfl, by omega⟩
    · exact ⟨.inr ⟨m, rfl, hm⟩, by omega⟩

theorem from?_size_add (s r : Text) (n : Nat) : (s ++ r).from? (s.size + n) = r.from? n := by
  induction s with
  | nil => rw [List.nil_append, size_nil, Nat.zero_add]
  | cons c s ih => rw [List.cons_append, size_cons, Nat.add_assoc, from?_cons_add, ih]

end Text

namespace TextPosition

open Text (IsUnit)

/-! ## Positions by themselves -/

/-- By line, and on one line by column. -/
instance : PartialOrder TextPosition where
  le p q := p.line < q.line ∨ p.line = q.line ∧ p.col ≤ q.col
  le_refl _ := .inr ⟨rfl, Nat.le_refl _⟩
  le_trans p q r hpq hqr := by omega
  le_antisymm p q hpq hqp := by
    have hline : p.line = q.line := by omega
    have hcol : p.col = q.col := by omega
    cases p
    cases q
    exact congr (congrArg mk hline) hcol

theorem le_iff {p q : TextPosition} :
    p ≤ q ↔ p.line < q.line ∨ p.line = q.line ∧ p.col ≤ q.col := Iff.rfl

/-- Where one comes to from a position by going as far as a second one is from the start:
lines add up, and the column is added only if no line is. -/
def advance (p q : TextPosition) : TextPosition :=
  ⟨p.line + q.line, if q.line = 0 then p.col + q.col else q.col⟩

variable (p q r : TextPosition)

@[simp] theorem advance_start : p.advance start = p := rfl

@[simp] theorem start_advance : start.advance q = q := by
  simp [advance, start]

@[simp] theorem advance_nextLine : p.advance q.nextLine = (p.advance q).nextLine := rfl

@[simp] theorem advance_nextColumn : p.advance q.nextColumn = (p.advance q).nextColumn := by
  by_cases hq : q.line = 0 <;> simp [advance, nextColumn, hq, Nat.add_assoc]

theorem advance_assoc : (p.advance q).advance r = p.advance (q.advance r) := by
  by_cases hq : q.line = 0 <;> by_cases hr : r.line = 0 <;>
    simp [advance, hq, hr, Nat.add_assoc]

theorem le_advance : p ≤ p.advance q := by
  simp only [le_iff, advance]
  split <;> omega

theorem lt_nextLine : p < p.nextLine := by
  simp [lt_iff_le_not_ge, le_iff, nextLine]

theorem lt_nextColumn : p < p.nextColumn := by
  simp [lt_iff_le_not_ge, le_iff, nextColumn]

/-! ## Walks -/

variable {p} {t u rest : Text} {n m : Nat}

/-- The first unit takes every walk the same way on. -/
theorem exists_walk_step (mode : LineBreakMode) (h : IsUnit u rest) :
    ∃ step, ∀ p, p < p.advance step ∧
      ∀ n, 0 < n → walk mode (u ++ rest) n p = walk mode rest (n - u.size) (p.advance step) := by
  rcases walk_unit mode h with ⟨-, hwalk⟩ | ⟨-, -, hwalk⟩
  · exact ⟨start.nextLine, fun p => ⟨p.lt_nextLine, fun n hn => hwalk n p hn⟩⟩
  · exact ⟨start.nextColumn, fun p => ⟨p.lt_nextColumn, fun n hn => hwalk n p hn⟩⟩

/-- A walk from a position goes as far as the same walk from the start. -/
theorem walk_eq_advance (mode : LineBreakMode) (t : Text) (n : Nat) (p : TextPosition) :
    walk mode t n p = p.advance (walk mode t n start) := by
  induction t using Text.unit_induction generalizing n p with
  | nil => rw [walk_nil, walk_nil, advance_start]
  | unit u rest hunit ih =>
    rcases Nat.eq_zero_or_pos n with rfl | hn
    · rw [walk_zero, walk_zero, advance_start]
    obtain ⟨step, hstep⟩ := exists_walk_step mode hunit
    rw [(hstep p).2 n hn, (hstep start).2 n hn, ih, ih _ (start.advance step), start_advance,
      advance_assoc]

theorem le_walk (mode : LineBreakMode) (t : Text) (n : Nat) (p : TextPosition) :
    p ≤ walk mode t n p := by
  rw [walk_eq_advance]
  exact p.le_advance _

theorem lt_walk_unit (mode : LineBreakMode) (h : IsUnit u rest) (hn : 0 < n)
    (p : TextPosition) : p < walk mode (u ++ rest) n p := by
  obtain ⟨step, hstep⟩ := exists_walk_step mode h
  rw [(hstep p).2 n hn]
  exact lt_of_lt_of_le (hstep p).1 (le_walk mode rest _ _)

theorem walk_le_walk (mode : LineBreakMode) (t : Text) (h : n ≤ m) (p : TextPosition) :
    walk mode t n p ≤ walk mode t m p := by
  induction t using Text.unit_induction generalizing n m p with
  | nil => rw [walk_nil, walk_nil]
  | unit u rest hunit ih =>
    rcases Nat.eq_zero_or_pos n with rfl | hn
    · rw [walk_zero]
      exact le_walk mode _ m p
    obtain ⟨step, hstep⟩ := exists_walk_step mode hunit
    rw [(hstep p).2 n hn, (hstep p).2 m (by omega)]
    exact ih (Nat.sub_le_sub_right h u.size) _

/-- Two walks end alike if every unit that starts behind the first one's end starts behind
the second one's, too. -/
theorem walk_eq_walk_iff (mode : LineBreakMode) (t : Text) (h : n ≤ m) (p : TextPosition) :
    walk mode t n p = walk mode t m p ↔ ∀ k, t.UnitStartsAt k → n ≤ k → m ≤ k := by
  induction t using Text.unit_induction generalizing n m p with
  | nil =>
    rw [walk_nil, walk_nil]
    exact ⟨fun _ k hk => absurd hk (Text.not_unitStartsAt_nil k), fun _ => rfl⟩
  | unit u rest hunit ih =>
    have hunits := fun k => Text.unitStartsAt_unit_iff (n := k) hunit
    rcases Nat.eq_zero_or_pos m with rfl | hm
    · obtain rfl := Nat.le_zero.mp h
      exact ⟨fun _ k _ _ => Nat.zero_le k, fun _ => rfl⟩
    rcases Nat.eq_zero_or_pos n with rfl | hn
    · -- The first unit starts between the two ends.
      rw [walk_zero]
      constructor
      · exact fun heq => absurd heq (ne_of_lt (lt_walk_unit mode hunit hm p))
      · intro hall
        have := hall 0 ((hunits 0).mpr (.inl rfl)) (Nat.le_refl 0)
        omega
    obtain ⟨step, hstep⟩ := exists_walk_step mode hunit
    rw [(hstep p).2 n hn, (hstep p).2 m hm, ih (Nat.sub_le_sub_right h u.size)]
    constructor
    · intro hall k hk hle
      rcases (hunits k).mp hk with rfl | ⟨j, rfl, hj⟩
      · omega
      · have := hall j hj (by omega)
        omega
    · intro hall k hk hle
      have := hall (u.size + k) ((hunits _).mpr (.inr ⟨k, rfl, hk⟩)) (by omega)
      omega

/-- From a stop on the walk is one over the rest of the text. -/
theorem walk_from (mode : LineBreakMode) (hstop : t.IsStop m) (hrest : t.from? m = some rest)
    (h : m ≤ n) (p : TextPosition) :
    walk mode t n p = walk mode rest (n - m) (walk mode t m p) := by
  induction t using Text.unit_induction generalizing n m p with
  | nil =>
    obtain ⟨s, hs, -⟩ := Text.from?_eq_some_iff.mp hrest
    obtain ⟨-, rfl⟩ := List.append_eq_nil_iff.mp hs.symm
    rw [walk_nil, walk_nil, walk_nil]
  | unit u rest' hunit ih =>
    rcases (Text.isStop_unit_iff hunit).mp hstop with rfl | ⟨k, rfl, hk⟩
    · obtain rfl := Option.some.inj ((Text.from?_zero _).symm.trans hrest)
      rw [walk_zero, Nat.sub_zero]
    have hpos := hunit.size_pos
    obtain ⟨step, hstep⟩ := exists_walk_step mode hunit
    rw [Text.from?_size_add] at hrest
    rw [(hstep p).2 n (by omega), (hstep p).2 (u.size + k) (by omega), Nat.add_sub_cancel_left,
      ih hk hrest (by omega), Nat.sub_sub]

/-! ## Positions of offsets -/

/-- Positions go with offsets, whatever numbers these are: that of the greater offset comes
no earlier by line and column, and both are the same exactly if no terminator and no other
character starts at or behind the smaller offset and before the greater one and the end of
the text. If the smaller offset is neither inside a character nor between CR and LF, the
position of the greater one is that of the smaller one, advanced by what the rest of the text
tells by itself. -/
theorem atOffset_in_order (mode : LineBreakMode) (t : Text) {o₁ o₂ : Nat} (h : o₁ ≤ o₂) :
    atOffset mode t o₁ ≤ atOffset mode t o₂ ∧
    (atOffset mode t o₁ = atOffset mode t o₂ ↔
      ¬ ∃ n, t.UnitStartsAt n ∧ o₁ ≤ n ∧ n < min o₂ t.size) ∧
    (t.IsStop o₁ → ∃ rest, t.from? o₁ = some rest ∧
      atOffset mode t o₂ = (atOffset mode t o₁).advance (atOffset mode rest (o₂ - o₁))) := by
  refine ⟨walk_le_walk mode t h start, ?_, ?_⟩
  · rw [atOffset, atOffset, walk_eq_walk_iff mode t h]
    constructor
    · rintro hall ⟨n, hn, hle, hlt⟩
      have := hall n hn hle
      omega
    · intro hnone n hn hle
      by_contra hlt
      have hsize := (Text.unitStartsAt_iff.mp hn).2
      exact hnone ⟨n, hn, hle, by omega⟩
  · intro hstop
    obtain ⟨s, r, rfl, rfl, -⟩ := id hstop
    have hrest := Text.from?_append s r
    refine ⟨r, hrest, ?_⟩
    rw [atOffset, walk_from mode hstop hrest h, walk_eq_advance]
    rfl

/-- Between CR and LF the line has ended already, and no unit starts there. -/
theorem atOffset_in_order_inside_crlf :
    let t : Text := ['é', '\r', '\n', 'x']
    atOffset .ascii t 3 = atOffset .ascii t 4 ∧
    ¬ (∃ n, t.UnitStartsAt n ∧ 3 ≤ n ∧ n < 4) ∧
    atOffset .ascii t 5 = (atOffset .ascii t 2).advance (atOffset .ascii ['\r', '\n', 'x'] 3) := by
  intro t
  have hsame : atOffset .ascii t 3 = atOffset .ascii t 4 := by decide
  have hstop : t.IsStop 2 := ⟨['é'], ['\r', '\n', 'x'], rfl, by decide, by decide⟩
  obtain ⟨-, hiff, -⟩ := @atOffset_in_order .ascii t 3 4 (by decide)
  obtain ⟨-, -, hparts⟩ := @atOffset_in_order .ascii t 2 5 (by decide)
  obtain ⟨rest, hrest, hadvance⟩ := hparts hstop
  cases hrest.symm.trans (Text.from?_append ['é'] ['\r', '\n', 'x'])
  exact ⟨hsame, hiff.mp hsame, hadvance⟩

end TextPosition

end LexScan
