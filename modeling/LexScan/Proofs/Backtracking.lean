import LexScan.Proofs.ByteCursor.Simulation

/-!
# Failures and alternatives

A call that fails leaves the cursor where it was, and the failure names that place.
So alternatives can be tried in a row without saving anything: as long as they fail,
the next one finds the cursor that the first one found.

This is shown for the bare byte offset too, check by check, where nothing but the
code of each check keeps it from moving before it fails.
-/

namespace LexScan

namespace ByteCursor

open Cursor (Check Call Answer)

/-- If this is a failure, then one at the offset of `b`, which has not moved. -/
def FailsInPlace (b : ByteCursor) (o : Option (Except ScanError Text × ByteCursor)) : Prop :=
  ∀ e after, o = some (.error e, after) → after = b ∧ e.offset = b.offset

theorem failsInPlace_fail (b : ByteCursor) (failure : ScanFailure) :
    b.FailsInPlace (b.fail failure) := by
  intro e after h
  obtain ⟨he, rfl⟩ := Prod.mk.inj (Option.some.inj h)
  obtain rfl := Except.error.inj he
  exact ⟨rfl, rfl⟩

theorem failsInPlace_succeed (b : ByteCursor) (o : Option (Text × ByteCursor)) :
    b.FailsInPlace (succeed <$> o) := by
  intro e after h
  obtain ⟨r, _, hr⟩ := Option.map_eq_some_iff.mp h
  cases hr

theorem failsInPlace_pass (b : ByteCursor) (c : Char) : b.FailsInPlace (b.pass c) := by
  intro e after h
  cases h

theorem FailsInPlace.bind {b : ByteCursor} {α : Type} (o : Option α)
    {f : α → Option (Except ScanError Text × ByteCursor)} (h : ∀ a, b.FailsInPlace (f a)) :
    b.FailsInPlace (o >>= f) := by
  intro e after heq
  obtain ⟨a, _, ha⟩ := Option.bind_eq_some_iff.mp heq
  exact h a e after ha

theorem check?_failsInPlace (b : ByteCursor) (k : Check) : b.FailsInPlace (b.check? k) := by
  cases k with
  | many1 x =>
    refine .bind _ fun t => ?_
    split
    · exact failsInPlace_succeed b _
    · exact failsInPlace_fail b _
  | count n x =>
    refine .bind _ fun t => ?_
    split
    · exact .bind _ fun last => failsInPlace_succeed b _
    · exact failsInPlace_fail b _
  | char x =>
    refine .bind _ fun t => ?_
    split
    · split
      · exact failsInPlace_pass b _
      · exact failsInPlace_fail b _
    · exact failsInPlace_fail b _
  | anyChar =>
    refine .bind _ fun t => ?_
    split
    · exact failsInPlace_pass b _
    · exact failsInPlace_fail b _
  | literal s =>
    refine .bind _ fun t => ?_
    split
    · exact failsInPlace_succeed b _
    · exact failsInPlace_fail b _
  | horizon n =>
    refine .bind _ fun t => ?_
    split
    · exact failsInPlace_succeed b _
    · exact failsInPlace_fail b _
  | peekHorizon n =>
    refine .bind _ fun t => ?_
    split
    · refine .bind _ fun r => ?_
      intro e after h
      cases h
    · exact failsInPlace_fail b _
  | lookingAt p =>
    refine .bind _ fun t => ?_
    split
    · exact failsInPlace_succeed b _
    · exact failsInPlace_fail b _
  | lineBreak =>
    rw [check?]
    split
    · exact failsInPlace_fail b _
    · refine .bind _ fun t => ?_
      split
      · exact failsInPlace_succeed b _
      · exact failsInPlace_fail b _

theorem answerCheck?_failed {b after : ByteCursor} {k : Check} {e : ScanError}
    (h : b.answerCheck? k = some (.failed e, after)) : after = b ∧ e.offset = b.offset := by
  obtain ⟨⟨result, next⟩, hcheck, hanswer⟩ := Option.bind_eq_some_iff.mp h
  cases result with
  | ok piece => cases hanswer
  | error e' =>
    obtain ⟨he, rfl⟩ := Prod.mk.inj (Option.some.inj hanswer)
    obtain rfl := Answer.failed.inj he
    exact b.check?_failsInPlace k e' next hcheck

theorem setPosition_failed {b after : ByteCursor} {n : Nat} {e : ScanError}
    (h : b.setPosition n = (.failed e, after)) : after = b ∧ e.offset = b.offset := by
  rw [setPosition] at h
  split at h
  · obtain ⟨he, rfl⟩ := Prod.mk.inj h
    obtain rfl := Answer.failed.inj he
    exact ⟨rfl, rfl⟩
  · cases h

theorem call?_failed {b after : ByteCursor} {k : Call} {e : ScanError}
    (h : b.call? k = some (.failed e, after)) : after = b ∧ e.offset = b.offset := by
  cases k with
  | setPosition n =>
    rw [call?] at h
    exact setPosition_failed (Option.some.inj h)
  | check k =>
    rw [call?] at h
    exact answerCheck?_failed h
  | lookingAt p =>
    cases p with
    | none => simp [call?] at h
    | some p =>
      rw [call?] at h
      exact answerCheck?_failed h
  | _ => simp [call?, Option.bind_eq_some_iff] at h

end ByteCursor

namespace Cursor

/-- The answers that report a failure. -/
def Answer.IsFailure (a : Answer) : Prop := ∃ e, a = .failed e

theorem call_failed {c after : Cursor} {k : Call} {e : ScanError}
    (h : (call c k).value = (.failed e, after)) : after = c ∧ e.offset = c.offset := by
  have hbytes := c.call?_bytes k
  rw [h] at hbytes
  obtain ⟨hafter, he⟩ := ByteCursor.call?_failed hbytes
  have hinput : after.input = c.input := congrArg ByteCursor.input hafter
  have hmode : after.mode = c.mode := congrArg ByteCursor.mode hafter
  have hoffset : after.offset = c.offset := congrArg ByteCursor.offset hafter
  exact ⟨eq_of_offset hinput hmode hoffset, he⟩

/-- As long as all calls fail, the cursor stays. -/
theorem calls_failed {c : Cursor} {ks : List Call}
    (h : ∀ a ∈ (calls c ks).value.1, a.1.IsFailure) :
    (calls c ks).value.2 = c ∧
      ∀ a ∈ (calls c ks).value.1, ∃ failure, a = (.failed ⟨failure, c.offset⟩, c.offset) := by
  induction ks with
  | nil => exact ⟨rfl, by simp [calls]⟩
  | cons k ks ih =>
    simp only [value_calls_cons] at h ⊢
    obtain ⟨⟨failure, offset⟩, he⟩ := h _ List.mem_cons_self
    have hfailed : (call c k).value = (.failed ⟨failure, offset⟩, (call c k).value.2) :=
      Prod.ext he rfl
    have hafter : (call c k).value.2 = c := (call_failed hfailed).1
    have hoffset : offset = c.offset := (call_failed hfailed).2
    rw [hafter] at h ⊢
    obtain ⟨hlast, hall⟩ := ih fun a ha => h a (List.mem_cons_of_mem _ ha)
    refine ⟨hlast, ?_⟩
    intro a ha
    rcases List.mem_cons.mp ha with rfl | ha
    · exact ⟨failure, by rw [he, hoffset]⟩
    · exact hall a ha

/-- A call that fails changes nothing about the cursor and reports its offset, and so
does the same call on a bare offset. If all calls of a list fail, one after the other,
the cursor is what it was, and whatever is called next is answered as if they had
never been made. -/
theorem failures_leave_cursor (c : Cursor) :
    (∀ k e after, (call c k).value = (.failed e, after) → after = c ∧ e.offset = c.offset) ∧
    (∀ (b : ByteCursor) k e after, b.call? k = some (.failed e, after) →
      after = b ∧ e.offset = b.offset) ∧
    ∀ ks, (∀ a ∈ (calls c ks).value.1, a.1.IsFailure) →
      (calls c ks).value.2 = c ∧
      (∀ a ∈ (calls c ks).value.1, ∃ failure, a = (.failed ⟨failure, c.offset⟩, c.offset)) ∧
      ∀ more, (calls c (ks ++ more)).value =
        ((calls c ks).value.1 ++ (calls c more).value.1, (calls c more).value.2) := by
  refine ⟨fun k e after => call_failed, fun b k e after => ByteCursor.call?_failed, ?_⟩
  intro ks h
  obtain ⟨hlast, hall⟩ := calls_failed h
  refine ⟨hlast, hall, ?_⟩
  intro more
  rw [value_calls_append, hlast]

/-- Four alternatives that fail in front of the last character, and one that takes it. -/
theorem failures_leave_cursor_before_last :
    let c : Cursor := ⟨['é', 'x'], .ascii, 2, ['x'], rfl⟩
    let ks : List Call :=
      [.setPosition 1, .check (.char 'Q'), .check (.count 2 'x'), .check .lineBreak]
    (call c (.setPosition 1)).value = (.failed ⟨.outOfRange, 2⟩, c) ∧
      (∃ after, c.bytes.call? (.check (.char 'Q')) = some (.failed ⟨.noMatch, 2⟩, after) ∧
        after = c.bytes) ∧
      (∀ a ∈ (calls c ks).value.1, a.1.IsFailure) ∧ (calls c ks).value.2 = c ∧
      (calls c (ks ++ [.check .anyChar])).value =
        ((calls c ks).value.1 ++ [(.text ['x'], 3)], c.advance 1) := by
  intro c ks
  obtain ⟨hone, hbare, hall⟩ := failures_leave_cursor c
  have hfails : ∀ a ∈ (calls c ks).value.1, a.1.IsFailure := by
    have hanswers : (calls c ks).value.1 = [(.failed ⟨.outOfRange, 2⟩, 2),
      (.failed ⟨.noMatch, 2⟩, 2), (.failed ⟨.outOfRange, 2⟩, 2),
      (.failed ⟨.noMatch, 2⟩, 2)] := rfl
    rw [hanswers]
    simp [Answer.IsFailure]
  obtain ⟨hlast, _, hmore⟩ := hall ks hfails
  have hset : (call c (.setPosition 1)).value =
      (.failed ⟨.outOfRange, 2⟩, (call c (.setPosition 1)).value.2) := rfl
  have hstay := (hone _ _ _ hset).1
  obtain ⟨after, hchar⟩ : ∃ after,
      c.bytes.call? (.check (.char 'Q')) = some (.failed ⟨.noMatch, 2⟩, after) := ⟨_, rfl⟩
  exact ⟨Prod.ext rfl hstay, ⟨after, hchar, (hbare _ _ _ _ hchar).1⟩, hfails, hlast,
    hmore [.check .anyChar]⟩

end Cursor

end LexScan
