import LexScan.Proofs.Anchoring.Rows
import LexScan.Proofs.ByteCursor.Simulation

/-!
# Patterns tied to the start

A written pattern is tied to the start of the text by putting it into a group behind a test
for the start. A search for what this reads as ends at once where there is no match at the
start, and a cursor that looks at it sees what it sees with the pattern alone: the same
match, or a mismatch in place.

There are two limits to this. The group and the row are two levels of depth more, and the
test is one state more, so a pattern that just keeps to the limits cannot be tied. And the
text is only put between a beginning and an end: where its parentheses do not belong together
in pairs, it can close the group that is meant for it, and what stands behind is not tied.
-/

namespace LexScan.Pattern

open Cursor

variable {t : Text} {p q : Pattern} {c : Cursor}

/-! ## What a cursor sees -/

/-- A cursor that looks at one of two patterns answers, moves and records as if it looked at
the other. It takes the leftmost match of the first pattern if nothing stands before it, and
of the second this is the only match there can be. -/
structure LooksAlike (p q : Pattern) (c : Cursor) : Prop where
  call_eq : call c (.lookingAt (some q)) = call c (.lookingAt (some p))
  bytes_eq : c.bytes.check? (.lookingAt q) = c.bytes.check? (.lookingAt p)
  outcome :
    (∃ piece, p.find? c.remaining = some ([], piece) ∧ q.find? c.remaining = some ([], piece) ∧
      c.check (.lookingAt q) = (.ok piece, c.advance piece.length)) ∨
    (∀ piece, p.find? c.remaining ≠ some ([], piece)) ∧ q.find? c.remaining = none ∧
      c.check (.lookingAt q) = (.error ⟨.noMatch, c.offset⟩, c)

theorem check_lookingAt_tied (p : Pattern) (c : Cursor) :
    c.check (.lookingAt (tied p)) = c.check (.lookingAt p) := by
  have hpiece : (Check.lookingAt (tied p)).piece c.mode c.remaining =
      (Check.lookingAt p).piece c.mode c.remaining := by
    rw [Check.piece, Check.piece, atStart?_tied]
  rw [check, check, hpiece]
  rfl

theorem looksAlike_tied (p : Pattern) (c : Cursor) : LooksAlike p (tied p) c where
  call_eq := by
    have hlogged : c.checkLogged (.lookingAt (tied p)) = c.checkLogged (.lookingAt p) := by
      rw [checkLogged, checkLogged, check_lookingAt_tied]
      rfl
    rw [call, call, answerCheck, answerCheck, hlogged]
  bytes_eq := by
    rw [check?_bytes, check?_bytes, check_lookingAt_tied]
  outcome := by
    have hfind := find?_tied p c.remaining
    cases h : p.atStart? c.remaining with
    | some piece =>
      rw [h] at hfind
      rw [check_lookingAt_tied, check_lookingAt_of_some h]
      exact .inl ⟨piece, atStart?_eq_some_iff.mp h, hfind, rfl⟩
    | none =>
      rw [h] at hfind
      rw [check_lookingAt_tied, check_lookingAt_of_none h]
      refine .inr ⟨fun piece hpiece => ?_, hfind, rfl⟩
      rw [← atStart?_eq_some_iff, h] at hpiece
      cases hpiece

/-! ## What can be tied -/

theorem read?_eq_some_iff : read? t = some p ↔
    ∃ w, written? t = some w ∧ w.depth ≤ depthLimit ∧ w.pattern.fits = true ∧ w.pattern = p := by
  rw [read?_eq, Option.bind_eq_some_iff]
  refine exists_congr fun w => and_congr_right fun _ => ?_
  split
  · next h => simp [h]
  · next h => exact ⟨nofun, fun hand => absurd ⟨hand.1, hand.2.1⟩ h⟩

/-- A pattern that can be read can be tied if the limits leave room for two levels and for
the test of the start, and only then. For the test one state in each automaton is enough
room. And whenever a pattern is tied, every cursor sees the same with it as with the pattern
alone. -/
theorem looksAlike_of_read? (h : read? t = some p) :
    (∃ w, written? t = some w ∧ w.pattern = p ∧ w.depth ≤ depthLimit ∧
      ((readAnchored? t).isSome = true ↔
        w.depth + 2 ≤ depthLimit ∧ (tied p).fits = true)) ∧
    (p.forwardsCost + stateCost ≤ costLimit → p.backwardsCost + stateCost ≤ costLimit →
      (tied p).fits = true) ∧
    ∀ q, readAnchored? t = some q → ∀ c, LooksAlike p q c := by
  obtain ⟨w, hwritten, hdepth, _, rfl⟩ := read?_eq_some_iff.mp h
  have hanchored := readAnchored?_eq (balanced_of_written? hwritten)
  rw [hwritten, Option.bind_some] at hanchored
  refine ⟨⟨w, hwritten, rfl, hdepth, ?_⟩, fits_tied, fun q hq c => ?_⟩
  · rw [hanchored]
    split <;> simp_all
  · rw [hanchored] at hq
    split at hq
    · obtain rfl := Option.some.inj hq
      exact looksAlike_tied w.pattern c
    · cases hq

/-- A lazy repetition of a dot that stands for line feeds too, between both ends of the text,
and an alternative to it. -/
theorem looksAlike_of_read?_lazy :
    let t : Text := ['(', '?', 's', ')', '^', '.', '+', '?', '$', '|', 'b', '*']
    ∃ p q, read? t = some p ∧ readAnchored? t = some q ∧ ∀ c, LooksAlike p q c := by
  intro t
  have hread : (read? t).isSome = true := by decide +kernel
  have hanchored : (readAnchored? t).isSome = true := by decide +kernel
  obtain ⟨p, hp⟩ := Option.isSome_iff_exists.mp hread
  obtain ⟨q, hq⟩ := Option.isSome_iff_exists.mp hanchored
  obtain ⟨_, _, halike⟩ := looksAlike_of_read? hp
  exact ⟨p, q, hp, hq, halike q hq⟩

/-- Patterns that cannot be tied: a letter under as many repetitions as may nest, and a
repetition that leaves less than a state of room. -/
theorem readAnchored?_at_limits :
    let deep : Text := 'a' :: List.replicate 249 '*'
    let long : Text := ['^', 'a', '{', '3', '2', '7', '6', '7', '4', '}']
    ((read? deep).isSome = true ∧ readAnchored? deep = none) ∧
      (read? long).isSome = true ∧ readAnchored? long = none := by
  decide +kernel

/-! ## Parentheses -/

/-- A text whose parentheses belong together in pairs reads, when it is tied, as the pattern
it writes down behind a test for the start; every match has nothing before it, and alone the
text is this pattern too, unless its automata are too large without the test. A text whose
parentheses do not belong together may read as something when it is tied, but is no pattern
alone. -/
theorem readAnchored?_matches_at_start (h : readAnchored? t = some q) :
    (Balanced t →
      (∀ u before piece, q.find? u = some (before, piece) → before = []) ∧
      ∃ p, q = tied p ∧ (read? t = some p ↔ p.fits = true)) ∧
    (¬ Balanced t → read? t = none) := by
  constructor
  · intro hbalanced
    rw [readAnchored?_eq hbalanced, Option.bind_eq_some_iff] at h
    obtain ⟨w, hwritten, hw⟩ := h
    split at hw
    · next hlimits =>
      obtain rfl := Option.some.inj hw
      constructor
      · intro u before piece hfind
        rw [find?_tied, Option.map_eq_some_iff] at hfind
        obtain ⟨_, _, hpair⟩ := hfind
        exact (Prod.mk.inj hpair).1.symm
      · refine ⟨w.pattern, rfl, ?_⟩
        have hdepth : w.depth ≤ depthLimit := by omega
        simp [read?_eq, hwritten, hdepth]
    · cases hw
  · intro hbalanced
    cases hread : read? t with
    | none => rfl
    | some p =>
      obtain ⟨w, hwritten, _⟩ := read?_eq_some_iff.mp hread
      exact absurd (balanced_of_written? hwritten) hbalanced

/-- A group in front of another one. -/
theorem readAnchored?_matches_at_start_of_groups :
    let t : Text := ['(', 'a', '|', 'b', ')', '(', '?', ':', 'c', ')']
    ∃ q, readAnchored? t = some q ∧
      (∀ u before piece, q.find? u = some (before, piece) → before = []) ∧
      ∃ p, q = tied p ∧ (read? t = some p ↔ p.fits = true) := by
  intro t
  have hanchored : (readAnchored? t).isSome = true := by decide +kernel
  have hbalanced : Balanced t := ⟨_, rfl, by decide⟩
  obtain ⟨q, hq⟩ := Option.isSome_iff_exists.mp hanchored
  exact ⟨q, hq, (readAnchored?_matches_at_start hq).1 hbalanced⟩

/-- The text closes the group that it is put into, and its other branch is not tied. -/
theorem readAnchored?_of_unbalanced :
    let t : Text := ['a', ')', '|', '(', 'b']
    let q : Pattern := .alt (.cat .textStart (.literal ['a'])) (.group 1 (.literal ['b']))
    read? t = none ∧ readAnchored? t = some q ∧
      q.find? ['x', 'b'] = some (['x'], ['b']) := by
  decide +kernel

end LexScan.Pattern
