import LexScan.Cursor.Call
import LexScan.Cursor.Lemmas

/-!
# Answers to calls

What the calls answer without their records, call by call and along a list. No call
changes the text or the mode of the cursor.
-/

namespace LexScan.Cursor

@[simp] theorem value_checkLogged (c : Cursor) (k : Check) :
    (c.checkLogged k).value = c.check k := by
  rw [checkLogged]
  split
  · next h => exact h.symm
  · next h => exact h.symm

@[simp] theorem value_setPositionLogged (c : Cursor) (n : Nat) :
    (c.setPositionLogged n).value = c.setPosition n := by
  rw [setPositionLogged]
  split
  · next h => exact h.symm
  · next h => exact h.symm

/-- How the result of a check is answered. -/
def Answer.ofCheck : Except ScanError Text → Answer
  | .ok piece => .text piece
  | .error e => .failed e

theorem value_answerCheck (c : Cursor) (k : Check) :
    (c.answerCheck k).value = (.ofCheck (c.check k).1, (c.check k).2) := by
  rw [answerCheck, Logged.value_bind, value_checkLogged]
  obtain ⟨result, after⟩ := c.check k
  cases result <;> rfl

theorem value_call_setPosition {c : Cursor} {n : Nat} {r : Text}
    (h : c.input.from? n = some r) :
    (call c (.setPosition n)).value = (.done, ⟨c.input, c.mode, n, r, h⟩) := by
  rw [call, Logged.value_bind, value_setPositionLogged, setPosition_of_from? h]
  rfl

theorem value_call_setPosition_refused {c : Cursor} {n : Nat} (h : ¬ c.input.IsBoundary n) :
    (call c (.setPosition n)).value = (.failed ⟨.outOfRange, c.offset⟩, c) := by
  rw [call, Logged.value_bind, value_setPositionLogged, setPosition_of_not_isBoundary h]
  rfl

theorem check_text (c : Cursor) (k : Check) :
    (c.check k).2.input = c.input ∧ (c.check k).2.mode = c.mode := by
  cases h : k.piece c.mode c.remaining with
  | ok piece =>
    rw [check_of_ok h]
    by_cases hk : k.moves = true
    · rw [if_pos hk]
      exact ⟨rfl, rfl⟩
    · rw [if_neg hk]
      exact ⟨rfl, rfl⟩
  | error failure =>
    rw [check_of_error h]
    exact ⟨rfl, rfl⟩

/-- No call changes the text or the mode. -/
theorem call_text (c : Cursor) (k : Call) :
    (call c k).value.2.input = c.input ∧ (call c k).value.2.mode = c.mode := by
  cases k with
  | setPosition n =>
    by_cases h : c.input.IsBoundary n
    · obtain ⟨r, hr⟩ := Option.isSome_iff_exists.mp h
      rw [value_call_setPosition hr]
      exact ⟨rfl, rfl⟩
    · rw [value_call_setPosition_refused h]
      exact ⟨rfl, rfl⟩
  | check k =>
    rw [call, value_answerCheck]
    exact c.check_text k
  | lookingAt p =>
    cases p with
    | none => exact ⟨rfl, rfl⟩
    | some p =>
      rw [call, value_answerCheck]
      exact c.check_text (.lookingAt p)
  | _ => exact ⟨rfl, rfl⟩

/-! ## Lists of calls -/

theorem value_calls_cons (c : Cursor) (k : Call) (ks : List Call) :
    (calls c (k :: ks)).value =
      (((call c k).value.1, (call c k).value.2.offset) ::
          (calls (call c k).value.2 ks).value.1,
        (calls (call c k).value.2 ks).value.2) := by
  rw [calls]
  rfl

theorem calls_text (c : Cursor) (ks : List Call) :
    (calls c ks).value.2.input = c.input ∧ (calls c ks).value.2.mode = c.mode := by
  induction ks generalizing c with
  | nil => exact ⟨rfl, rfl⟩
  | cons k ks ih =>
    have hcall := c.call_text k
    have hcalls := ih (call c k).value.2
    rw [value_calls_cons]
    exact ⟨hcalls.1.trans hcall.1, hcalls.2.trans hcall.2⟩

theorem value_calls_append (c : Cursor) (ks more : List Call) :
    (calls c (ks ++ more)).value =
      ((calls c ks).value.1 ++ (calls (calls c ks).value.2 more).value.1,
        (calls (calls c ks).value.2 more).value.2) := by
  induction ks generalizing c with
  | nil => rfl
  | cons k ks ih => simp only [List.cons_append, value_calls_cons, ih]

end LexScan.Cursor
