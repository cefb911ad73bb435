import LexScan.Cursor.Call.Lemmas

/-!
# What calls take

Without moves to an offset a run of calls reads its text once from front to back. Each
call takes the piece between the offsets before and after it, and says so: it answers
that very piece, or its number of bytes. The pieces of a run, one behind the other, are
what lies between its first and its last offset, and with what then remains they are all
that remained before. A call that only looks ahead answers what the call that takes the
same would answer.

Calls on a clone move the clone only, which is a cursor like any other.
-/

namespace LexScan.Cursor

/-- A call that sends the cursor to a given offset. -/
def Call.jumps : Call → Bool
  | setPosition _ => true
  | _ => false

/-- What the answer to a call says about the piece that the call took between two offsets.
Calls that have nothing to take leave the cursor where it was. -/
def Call.Tells (k : Call) (answer : Answer) (before after : Nat) (piece : Text) : Prop :=
  match k with
  | take _ => answer = .text piece
  | skip _ => answer = .number (after - before)
  | skipWhiteSpace => answer = .done
  | whiteSpace1 => answer = .flag (!piece.isEmpty)
  | check k =>
      if k.moves then answer = .text piece ∨ (∃ e, answer = .failed e) ∧ after = before
      else after = before
  | lookingAt (some _) => answer = .text piece ∨ (∃ e, answer = .failed e) ∧ after = before
  | _ => after = before

/-- The answers to calls with the offsets after them, beside the pieces of the text that
the calls took, from a first to a last offset. -/
inductive Account (input : Text) : Nat → List Call → List (Answer × Nat) → List Text → Nat → Prop
  where
  | done (n : Nat) : Account input n [] [] [] n
  | step {before after last : Nat} {k : Call} {ks : List Call} {answer : Answer} {piece : Text}
      {answers : List (Answer × Nat)} {pieces : List Text} (hle : before ≤ after)
      (hslice : input.slice? before after = some piece)
      (htells : k.Tells answer before after piece)
      (more : Account input after ks answers pieces last) :
      Account input before (k :: ks) ((answer, after) :: answers) (piece :: pieces) last

/-! ## One call -/

/-- A cursor and the one behind a piece that it took. -/
structure Takes (c : Cursor) (piece : Text) (after : Cursor) : Prop where
  input_eq : after.input = c.input
  append_remaining : piece ++ after.remaining = c.remaining

variable {c after last : Cursor} {piece : Text}

theorem Takes.offset_eq (h : c.Takes piece after) : after.offset = c.offset + piece.size := by
  have hc := c.size_input
  have ha := after.size_input
  rw [h.input_eq] at ha
  rw [← h.append_remaining, Text.size_append] at hc
  omega

theorem Takes.slice?_eq (h : c.Takes piece after) :
    c.input.slice? c.offset after.offset = some piece := by
  rw [h.offset_eq]
  exact Text.slice?_of_prefix c.from?_offset ⟨_, h.append_remaining⟩

theorem takes_nothing (c : Cursor) : c.Takes [] c := ⟨rfl, rfl⟩

theorem takes_advance (h : piece <+: c.remaining) : c.Takes piece (c.advance piece.length) := by
  obtain ⟨rest, hrest⟩ := h
  refine ⟨rfl, ?_⟩
  rw [remaining_advance, ← hrest, List.drop_left]

theorem takes_take (c : Cursor) (r : Run) : c.Takes (c.take r).1 (c.take r).2 :=
  takes_advance (r.piece_prefix c.mode c.remaining)

theorem Takes.trans {more : Text} (h : c.Takes piece after) (h' : after.Takes more last) :
    c.Takes (piece ++ more) last := by
  refine ⟨h'.input_eq.trans h.input_eq, ?_⟩
  rw [List.append_assoc, h'.append_remaining, h.append_remaining]

/-- A check takes the piece that it answers, or fails in its place. -/
theorem exists_takes_check (c : Cursor) (k : Check) (hk : k.moves = true) :
    ∃ piece, c.Takes piece (c.check k).2 ∧
      (Answer.ofCheck (c.check k).1 = .text piece ∨
        (∃ e, Answer.ofCheck (c.check k).1 = .failed e) ∧ (c.check k).2.offset = c.offset) := by
  cases h : k.piece c.mode c.remaining with
  | ok piece =>
    rw [check_of_ok h, if_pos hk]
    exact ⟨piece, takes_advance (Check.piece_prefix h), .inl rfl⟩
  | error failure =>
    rw [check_of_error h]
    exact ⟨[], takes_nothing c, .inr ⟨⟨_, rfl⟩, rfl⟩⟩

theorem check_of_not_moves {k : Check} (hk : ¬ k.moves = true) : (c.check k).2 = c := by
  cases h : k.piece c.mode c.remaining with
  | ok piece => rw [check_of_ok h, if_neg hk]
  | error failure => rw [check_of_error h]

theorem exists_takes_answerCheck (c : Cursor) {k : Check} (hk : k.moves = true) :
    ∃ piece, c.Takes piece (c.answerCheck k).value.2 ∧
      ((c.answerCheck k).value.1 = .text piece ∨
        (∃ e, (c.answerCheck k).value.1 = .failed e) ∧
          (c.answerCheck k).value.2.offset = c.offset) := by
  rw [value_answerCheck]
  exact c.exists_takes_check k hk

/-- Every call but a jump takes a piece and tells of it. -/
theorem exists_takes_call (c : Cursor) {k : Call} (hk : k.jumps = false) :
    ∃ piece, c.Takes piece (call c k).value.2 ∧
      k.Tells (call c k).value.1 c.offset (call c k).value.2.offset piece := by
  cases k with
  | setPosition n => cases hk
  | take r => exact ⟨_, c.takes_take r, rfl⟩
  | skip r =>
    have htakes := c.takes_take r
    have hsize : (c.take r).2.offset - c.offset = (c.take r).1.size := by
      have := htakes.offset_eq
      omega
    exact ⟨_, htakes, congrArg Answer.number hsize.symm⟩
  | skipWhiteSpace => exact ⟨_, c.takes_take whiteSpace, rfl⟩
  | whiteSpace1 => exact ⟨_, c.takes_take whiteSpace, rfl⟩
  | check k =>
    by_cases hmoves : k.moves = true
    · obtain ⟨piece, htakes, hanswer⟩ := c.exists_takes_answerCheck hmoves
      refine ⟨piece, htakes, ?_⟩
      show if k.moves = true then _ else _
      rw [if_pos hmoves]
      exact hanswer
    · have hsame : (call c (.check k)).value.2 = c := by
        rw [call, value_answerCheck]
        exact check_of_not_moves hmoves
      rw [hsame]
      refine ⟨[], takes_nothing c, ?_⟩
      show if k.moves = true then _ else _
      rw [if_neg hmoves]
  | lookingAt p =>
    cases p with
    | none => exact ⟨[], takes_nothing c, rfl⟩
    | some p => exact c.exists_takes_answerCheck (k := .lookingAt p) rfl
  | _ => exact ⟨[], takes_nothing c, rfl⟩

/-! ## Looking ahead -/

theorem value_call_peekHorizon (c : Cursor) (n : Nat) :
    (call c (.check (.peekHorizon n))).value = ((call c (.check (.horizon n))).value.1, c) := by
  have hpiece : (Check.peekHorizon n).piece c.mode c.remaining =
      (Check.horizon n).piece c.mode c.remaining := rfl
  rw [call, call, value_answerCheck, value_answerCheck]
  cases h : (Check.horizon n).piece c.mode c.remaining with
  | ok piece =>
    rw [check_of_ok h, check_of_ok (hpiece.trans h)]
    rfl
  | error failure => rw [check_of_error h, check_of_error (hpiece.trans h)]

/-- The next character is the one that would be taken, and missing at the end only. -/
theorem value_call_peekChar (c : Cursor) :
    ∃ next, (call c .peekChar).value = (.char next, c) ∧
      (call c (.check .anyChar)).value.1 = match next with
        | some x => .text [x]
        | none => .failed ⟨.outOfRange, c.offset⟩ := by
  refine ⟨c.peekChar, rfl, ?_⟩
  rw [call, value_answerCheck, peekChar]
  cases h : c.remaining with
  | nil =>
    have hpiece : Check.anyChar.piece c.mode c.remaining = .error .outOfRange := by
      rw [h]
      rfl
    rw [check_of_error hpiece]
    rfl
  | cons x t =>
    have hpiece : Check.anyChar.piece c.mode c.remaining = .ok [x] := by
      rw [h]
      rfl
    rw [check_of_ok hpiece]
    rfl

/-! ## Runs -/

/-- The pieces that a run takes, one behind the other, are what the run takes. -/
theorem exists_account (c : Cursor) {ks : List Call} (h : ∀ k ∈ ks, k.jumps = false) :
    ∃ pieces,
      Account c.input c.offset ks (calls c ks).value.1 pieces (calls c ks).value.2.offset ∧
      c.Takes pieces.flatten (calls c ks).value.2 := by
  induction ks generalizing c with
  | nil => exact ⟨[], .done c.offset, takes_nothing c⟩
  | cons k ks ih =>
    obtain ⟨hk, hks⟩ := List.forall_mem_cons.mp h
    obtain ⟨piece, htakes, htells⟩ := c.exists_takes_call hk
    obtain ⟨pieces, haccount, hmore⟩ := ih (call c k).value.2 hks
    have hle : c.offset ≤ (call c k).value.2.offset := by
      rw [htakes.offset_eq]
      omega
    rw [htakes.input_eq] at haccount
    rw [value_calls_cons]
    exact ⟨piece :: pieces, .step hle htakes.slice?_eq htells haccount, htakes.trans hmore⟩

/-- Calls that do not jump account for all of the text. From call to call the offset never
decreases. What a call takes is the piece between the offsets before and after it, which
is the text that it answers, or the number of its bytes. The pieces in their order are
what lies between the first and the last offset, and what remained at first is these and
what remains at last: the whole text, if the run started at offset 0. And after any such
calls, looking ahead moves nothing and answers what taking the same would answer. -/
theorem calls_account (c : Cursor) (ks : List Call) (h : ∀ k ∈ ks, k.jumps = false) :
    (∃ pieces, let last := (calls c ks).value.2
      Account c.input c.offset ks (calls c ks).value.1 pieces last.offset ∧
      c.input.slice? c.offset last.offset = some pieces.flatten ∧
      pieces.flatten ++ last.remaining = c.remaining ∧
      (c.offset = 0 → pieces.flatten ++ last.remaining = c.input)) ∧
    let d := (calls c ks).value.2
    (∃ next, (call d .peekChar).value = (.char next, d) ∧
      (call d (.check .anyChar)).value.1 = match next with
        | some x => .text [x]
        | none => .failed ⟨.outOfRange, d.offset⟩) ∧
    (∀ n, (call d (.check (.peekHorizon n))).value = ((call d (.check (.horizon n))).value.1, d)) ∧
    (call d .peekRestOfLine).value = ((call d (.take (.restOfLine false))).value.1, d) := by
  obtain ⟨pieces, haccount, htakes⟩ := c.exists_account h
  have hall := htakes.append_remaining
  refine ⟨⟨pieces, haccount, htakes.slice?_eq, hall, ?_⟩, value_call_peekChar _,
    value_call_peekHorizon _, rfl⟩
  intro hstart
  have hinput : c.input.from? 0 = some c.remaining := hstart ▸ c.from?_offset
  rw [Text.from?_zero] at hinput
  rw [hall, Option.some.inj hinput]

/-- A run with a call of each kind, a failing one and a clone that jumps. -/
theorem calls_account_over_clone :
    let t : Text := ['a', ' ', 'é', '\r', '\n', 'b']
    let ks : List Call :=
      [.take (.till ['é']), .clone [.setPosition 0], .skip (.restOfLine false),
        .check (.char 'x'), .check .lineBreak, .skipWhiteSpace, .check .anyChar]
    let last := (calls (start .ascii t) ks).value.2
    (∀ k ∈ ks, k.jumps = false) ∧ ∃ pieces,
      Account t 0 ks (calls (start .ascii t) ks).value.1 pieces last.offset ∧
      t.slice? 0 last.offset = some pieces.flatten ∧ pieces.flatten ++ last.remaining = t := by
  intro t ks last
  have hks : ∀ k ∈ ks, k.jumps = false := by simp [ks, Call.jumps]
  obtain ⟨⟨pieces, haccount, hslice, _, hall⟩, _⟩ := calls_account (start .ascii t) ks hks
  exact ⟨hks, pieces, haccount, hslice, hall rfl⟩

end LexScan.Cursor
