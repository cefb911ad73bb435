import LexScan.Proofs.Accounting
import LexScan.Proofs.ByteCursor.Simulation

/-!
# Fixed widths

Checks that ask for a number of characters. They fail exactly if fewer remain, whatever
these are and however many bytes they take, and what they take otherwise is counted in
characters: the next `n` of them, or the run of one character as far as it lies within them.
Two widths in a row are their sum.

The bare byte offset counts characters too, but moves by bytes; all of this is said of it as
well.
-/

namespace LexScan.Cursor

/-- What a check comes to, on the cursor and on its bare byte offset. -/
structure ComesTo (c : Cursor) (k : Check) (result : Except ScanError Text) (after : Cursor) :
    Prop where
  cursor : c.check k = (result, after)
  bytes : c.bytes.check? k = some (result, after.bytes)

/-- An initial piece of at most `n` characters that are all `x`, and no shorter than any
other. -/
structure IsLongestRun (x : Char) (n : Nat) (t piece : Text) : Prop where
  isPrefix : piece <+: t
  length_le : piece.length ≤ n
  all_eq : ∀ y ∈ piece, y = x
  longest : ∀ q, q <+: t → q.length ≤ n → (∀ y ∈ q, y = x) → q.length ≤ piece.length

variable {c : Cursor} {n : Nat}

/-- The bare byte offset follows the cursor. -/
theorem comesTo_of_check {k : Check} {result : Except ScanError Text} {after : Cursor}
    (h : c.check k = (result, after)) : c.ComesTo k result after := by
  refine ⟨h, ?_⟩
  rw [check?_bytes, h]

/-! ## One width -/

theorem isLongestRun_takeWhile (x : Char) (n : Nat) (t : Text) :
    IsLongestRun x n t ((t.takeWhile (· == x)).take n) where
  isPrefix := (List.take_prefix n _).trans (List.takeWhile_prefix _)
  length_le := List.length_take_le n _
  all_eq := by
    intro y hy
    have hall := List.all_eq_true.mp (List.all_takeWhile (p := (· == x)) (l := t)) y
      (List.mem_of_mem_take hy)
    exact eq_of_beq hall
  longest := by
    rintro q ⟨rest, rfl⟩ hlength hall
    have hq : (q ++ rest).takeWhile (· == x) = q ++ rest.takeWhile (· == x) := by
      apply List.takeWhile_append_of_pos
      intro y hy
      exact beq_iff_eq.mpr (hall y hy)
    rw [hq, List.length_take, List.length_append]
    omega

theorem not_fits (h : c.remaining.length < n) :
    c.ComesTo (.horizon n) (.error ⟨.outOfRange, c.offset⟩) c ∧
    c.ComesTo (.peekHorizon n) (.error ⟨.outOfRange, c.offset⟩) c ∧
    ∀ x, c.ComesTo (.count n x) (.error ⟨.outOfRange, c.offset⟩) c := by
  have hn : ¬ n ≤ c.remaining.length := Nat.not_le.mpr h
  refine ⟨comesTo_of_check (check_of_error (if_neg hn)),
    comesTo_of_check (check_of_error (if_neg hn)), fun x => ?_⟩
  exact comesTo_of_check (check_of_error (if_neg hn))

theorem horizon_fits (h : n ≤ c.remaining.length) :
    c.ComesTo (.horizon n) (.ok (c.remaining.take n)) (c.advance n) ∧
      c.ComesTo (.peekHorizon n) (.ok (c.remaining.take n)) c := by
  exact ⟨comesTo_of_check (check_horizon_of_le h), comesTo_of_check (check_of_ok (if_pos h))⟩

theorem takes_take_remaining (h : n ≤ c.remaining.length) :
    c.Takes (c.remaining.take n) (c.advance n) := by
  have htakes := takes_advance (List.take_prefix n c.remaining)
  rwa [List.length_take, Nat.min_eq_left h] at htakes

theorem count_fits (h : n ≤ c.remaining.length) (x : Char) :
    ∃ piece after, c.ComesTo (.count n x) (.ok piece) after ∧ c.Takes piece after ∧
      IsLongestRun x n c.remaining piece ∧
      let run := (c.take (.satisfying (· == x))).1
      piece = run.take (min n run.length) := by
  have hrun := isLongestRun_takeWhile x n c.remaining
  have hcomes : c.ComesTo (.count n x) _ _ := comesTo_of_check (check_of_ok (if_pos h))
  refine ⟨_, _, hcomes, takes_advance hrun.isPrefix, hrun, ?_⟩
  exact List.take_eq_take_min

/-! ## Two widths in a row -/

/-- A width is taken exactly if so many characters remain. -/
theorem check_horizon_eq_ok_iff {piece : Text} {after : Cursor} :
    c.check (.horizon n) = (.ok piece, after) ↔
      n ≤ c.remaining.length ∧ piece = c.remaining.take n ∧ after = c.advance n := by
  constructor
  · intro h
    rcases Nat.lt_or_ge c.remaining.length n with hlt | hle
    · rw [(not_fits hlt).1.cursor] at h
      cases h
    · rw [(horizon_fits hle).1.cursor] at h
      obtain ⟨hpiece, hafter⟩ := Prod.mk.inj h
      exact ⟨hle, (Except.ok.inj hpiece).symm, hafter.symm⟩
  · rintro ⟨hle, rfl, rfl⟩
    exact (horizon_fits hle).1.cursor

theorem check_horizon_add_iff {m : Nat} {whole : Text} {last : Cursor} :
    c.check (.horizon (m + n)) = (.ok whole, last) ↔ ∃ first middle second,
      c.check (.horizon m) = (.ok first, middle) ∧
      middle.check (.horizon n) = (.ok second, last) ∧ whole = first ++ second := by
  simp only [check_horizon_eq_ok_iff]
  constructor
  · rintro ⟨hle, rfl, rfl⟩
    refine ⟨_, _, _, ⟨by omega, rfl, rfl⟩, ⟨?_, rfl, (advance_advance c m n).symm⟩, ?_⟩
    · rw [remaining_advance, List.length_drop]
      omega
    · rw [remaining_advance, List.take_add]
  · rintro ⟨_, _, _, ⟨hm, rfl, rfl⟩, ⟨hn, rfl, rfl⟩, rfl⟩
    rw [remaining_advance, List.length_drop] at hn
    refine ⟨by omega, ?_, advance_advance c m n⟩
    rw [remaining_advance, List.take_add]

/-- Widths count characters. Where fewer than `n` remain, all that ask for so many fail and
leave the cursor alone. Where there are enough, the next `n` characters are taken, or only
looked at; a counted run is the longest piece of at most `n` characters that are all `x`,
which is the beginning of the run of `x` that could be taken without counting. And a sum of
widths is taken exactly if the one can be taken and then the other, with the same text and
to the same place. -/
theorem widths_count_characters (c : Cursor) :
    (∀ n, c.remaining.length < n →
      c.ComesTo (.horizon n) (.error ⟨.outOfRange, c.offset⟩) c ∧
      c.ComesTo (.peekHorizon n) (.error ⟨.outOfRange, c.offset⟩) c ∧
      ∀ x, c.ComesTo (.count n x) (.error ⟨.outOfRange, c.offset⟩) c) ∧
    (∀ n, n ≤ c.remaining.length →
      (∃ piece after, c.ComesTo (.horizon n) (.ok piece) after ∧
        c.ComesTo (.peekHorizon n) (.ok piece) c ∧ c.Takes piece after ∧ piece.length = n) ∧
      ∀ x, ∃ piece after, c.ComesTo (.count n x) (.ok piece) after ∧ c.Takes piece after ∧
        IsLongestRun x n c.remaining piece ∧
        let run := (c.take (.satisfying (· == x))).1
        piece = run.take (min n run.length)) ∧
    ∀ m n whole last, c.check (.horizon (m + n)) = (.ok whole, last) ↔
      ∃ first middle second, c.check (.horizon m) = (.ok first, middle) ∧
        middle.check (.horizon n) = (.ok second, last) ∧ whole = first ++ second := by
  refine ⟨fun n h => not_fits h, fun n h => ⟨?_, count_fits h⟩,
    fun m n whole last => check_horizon_add_iff⟩
  obtain ⟨hhorizon, hpeek⟩ := horizon_fits h
  exact ⟨_, _, hhorizon, hpeek, takes_take_remaining h, List.length_take_of_le h⟩

/-- In front of three characters of two bytes each. -/
theorem widths_count_characters_of_two_bytes :
    let c : Cursor := ⟨['a', 'é', 'é', 'ß'], .ascii, 1, ['é', 'é', 'ß'], rfl⟩
    c.ComesTo (.horizon 4) (.error ⟨.outOfRange, 1⟩) c ∧
    (∃ piece after, c.ComesTo (.horizon 3) (.ok piece) after ∧ c.Takes piece after ∧
      piece.length = 3) ∧
    ∃ piece after, c.ComesTo (.count 3 'é') (.ok piece) after ∧ c.Takes piece after ∧
      IsLongestRun 'é' 3 c.remaining piece := by
  intro c
  obtain ⟨hfew, henough, _⟩ := widths_count_characters c
  obtain ⟨⟨piece, after, hhorizon, _, htakes, hlength⟩, hcount⟩ := henough 3 (by decide)
  obtain ⟨run, behind, hrun, hruntakes, hlongest, _⟩ := hcount 'é'
  exact ⟨(hfew 4 (by decide)).1, ⟨piece, after, hhorizon, htakes, hlength⟩,
    run, behind, hrun, hruntakes, hlongest⟩

end LexScan.Cursor
