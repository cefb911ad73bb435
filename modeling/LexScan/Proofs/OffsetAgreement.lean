import LexScan.Cursor.Call.Lemmas
import LexScan.OffsetScan

/-!
# The scanners and the cursor

From a boundary of the text every offset scanner finds what a cursor finds there. The
two count differently: a scanner adds up the bytes that it passes and then cuts its
text out between two offsets, a cursor takes the text first and moves behind it. So
each scanner is first shown to end behind the piece that the run of the cursor takes.
From this a caller who keeps the offset and hands it from step to step sees the same
texts and offsets as a cursor does.
-/

namespace LexScan.OffsetScan

open Cursor

theorem runEnd_eq (test : Char → Bool) (t : Text) (offset : Nat) :
    runEnd test t offset = offset + Text.size (t.takeWhile test) := by
  induction t generalizing offset with
  | nil => rfl
  | cons c t ih =>
    by_cases h : test c = true
    · rw [runEnd, if_pos h, ih, List.takeWhile_cons_of_pos h, Text.size_cons, Nat.add_assoc]
    · rw [runEnd, if_neg h, List.takeWhile_cons_of_neg h]
      rfl

theorem needleStart_eq (needle t : Text) (offset : Nat) :
    needleStart needle t offset = offset + Text.size (Text.before needle t) := by
  induction t generalizing offset with
  | nil => rfl
  | cons c t ih =>
    by_cases h : needle.isPrefixOf (c :: t) = true
    · rw [needleStart, if_pos h, Text.before, if_pos h]
      rfl
    · rw [needleStart, if_neg h, ih, Text.before, if_neg h, Text.size_cons, Nat.add_assoc]

/-! ## One step -/

/-- The text that the scanner of a run answers. -/
def text (mode : LineBreakMode) (t : Text) (offset : Nat) : Run → Text
  | .satisfying test => satisfying t offset test
  | .till needle => till t offset needle
  | .restOfLine withTerminator => restOfLine mode t offset withTerminator

/-- The offset that the scanner of a run answers. -/
def skip (mode : LineBreakMode) (t : Text) (offset : Nat) : Run → Nat
  | .satisfying test => skipSatisfying t offset test
  | .till needle => skipTill t offset needle
  | .restOfLine withTerminator => skipRestOfLine mode t offset withTerminator

theorem text_eq_stretch (mode : LineBreakMode) (t : Text) (offset : Nat) (r : Run) :
    text mode t offset r = stretch t offset (skip mode t offset r) := by
  cases r <;> rfl

theorem rest_offset (c : Cursor) : rest c.input c.offset = c.remaining := by
  rw [rest, c.from?_offset]
  rfl

theorem skipRestOfLine_eq (mode : LineBreakMode) (t : Text) (offset : Nat)
    (withTerminator : Bool) : skipRestOfLine mode t offset withTerminator =
      offset + (mode.line withTerminator (rest t offset)).size := by
  rw [skipRestOfLine, LineBreakMode.findTerminator?, LineBreakMode.line]
  cases h : mode.terminator? (mode.afterBody (rest t offset)) with
  | some terminator => cases withTerminator <;> simp
  | none => cases withTerminator <;> simp [LineBreakMode.body_eq_self h]

/-- A scanner ends behind a piece of the text from its offset on. -/
theorem skip_eq_add_size (mode : LineBreakMode) (t : Text) (offset : Nat) (r : Run) :
    skip mode t offset r = offset + (r.piece mode (rest t offset)).size := by
  cases r with
  | satisfying test => rw [skip, skipSatisfying, runEnd_eq, Run.piece]
  | till needle => rw [skip, skipTill, needleStart_eq, Run.piece]
  | restOfLine withTerminator => rw [skip, skipRestOfLine_eq, Run.piece]

/-- It is the piece that the run of a cursor takes. -/
theorem skip_eq (c : Cursor) (r : Run) :
    skip c.mode c.input c.offset r = c.offset + (r.piece c.mode c.remaining).size := by
  rw [skip_eq_add_size, rest_offset]

theorem offset_take_eq (c : Cursor) (r : Run) :
    (c.take r).2.offset = skip c.mode c.input c.offset r := by
  rw [skip_eq, offset_take]
  rfl

theorem text_eq (c : Cursor) (r : Run) :
    text c.mode c.input c.offset r = (c.take r).1 := by
  rw [text_eq_stretch, skip_eq, stretch,
    Text.slice?_of_prefix c.from?_offset (r.piece_prefix c.mode c.remaining)]
  rfl

theorem skip_sub (c : Cursor) (r : Run) :
    (c.skip r).1 = skip c.mode c.input c.offset r - c.offset := by
  rw [skip_eq, Nat.add_sub_cancel_left]
  rfl

/-! ## Literals -/

@[simp] theorem value_literalLogged (t : Text) (offset : Nat) (s : Text) :
    (literalLogged t offset s).value = literal t offset s := by
  rw [literalLogged]
  cases literal t offset s <;> rfl

@[simp] theorem value_skipLiteralLogged (t : Text) (offset : Nat) (s : Text) :
    (skipLiteralLogged t offset s).value = skipLiteral t offset s := by
  rw [skipLiteralLogged, Logged.value_map, value_literalLogged, skipLiteral]

theorem literal_eq (c : Cursor) (s : Text) :
    literal c.input c.offset s = (c.check (.literal s)).1 := by
  rw [literal, checkOffset, if_pos c.isBoundary_offset]
  simp only [bind, Except.bind, rest_offset]
  by_cases hs : s <+: c.remaining
  · have htake : c.remaining.take s.length = s := (List.prefix_iff_eq_take.mp hs).symm
    have hpiece : (Check.literal s).piece c.mode c.remaining = .ok s :=
      if_pos (List.isPrefixOf_iff_prefix.mpr hs)
    rw [if_pos htake, check_of_ok hpiece, htake]
  · have htake : ¬ c.remaining.take s.length = s := by
      intro h
      exact hs (List.prefix_iff_eq_take.mpr h.symm)
    have hmatch : ¬ s.isPrefixOf c.remaining = true := by
      intro h
      exact hs (List.isPrefixOf_iff_prefix.mp h)
    rw [if_neg htake, check, Check.piece, matchLiteral, if_neg hmatch]
    by_cases hlong : (c.remaining.take s.length).length < s.length
    · rw [if_pos hlong, if_pos hlong]
    · rw [if_neg hlong, if_neg hlong]

/-- Both forms of the literal succeed together, the one with the needle and the other
with the offset behind it, or fail with one error. -/
theorem skipLiteral_eq (c : Cursor) (s : Text) :
    skipLiteral c.input c.offset s =
      (c.check (.literal s)).1.map fun _ => (c.check (.literal s)).2.offset := by
  rw [skipLiteral, literal_eq]
  cases h : (Check.literal s).piece c.mode c.remaining with
  | ok piece =>
    have hcheck : c.check (.literal s) = (.ok piece, c.advance piece.length) := check_of_ok h
    have hbegins : piece <+: c.remaining := matchLiteral_prefix h
    have hoffset := offset_advance hbegins
    rw [hcheck, hoffset]
    rfl
  | error failure =>
    rw [check_of_error h]
    rfl

theorem offset_literal_eq (c : Cursor) (s : Text) :
    (c.check (.literal s)).2.offset =
      (skipLiteral c.input c.offset s).toOption.getD c.offset := by
  rw [skipLiteral_eq]
  cases h : (Check.literal s).piece c.mode c.remaining with
  | ok piece =>
    rw [check_of_ok h]
    rfl
  | error failure =>
    rw [check_of_error h]
    rfl

/-! ## Sequences of steps -/

/-- What both a cursor and a caller with an offset can do next. -/
inductive Step where
  | take (r : Run)
  | skip (r : Run)
  | literal (s : Text)

def Step.call : Step → Call
  | take r => .take r
  | skip r => .skip r
  | literal s => .check (.literal s)

/-- The answer that the scanners give to a step at an offset, and the offset to go on
from. A literal that fails gives none. -/
def step (mode : LineBreakMode) (t : Text) (offset : Nat) : Step → Answer × Nat
  | .take r => (.text (text mode t offset r), skip mode t offset r)
  | .skip r => (.number (skip mode t offset r - offset), skip mode t offset r)
  | .literal s =>
      (.ofCheck (literalLogged t offset s).value,
        (skipLiteralLogged t offset s).value.toOption.getD offset)

/-- The answers to steps that hand the offset on, each with the offset after it. -/
def thread (mode : LineBreakMode) (t : Text) : Nat → List Step → List (Answer × Nat)
  | _, [] => []
  | offset, first :: rest =>
      step mode t offset first :: thread mode t (step mode t offset first).2 rest

theorem step_eq (c : Cursor) (k : Step) :
    step c.mode c.input c.offset k =
      ((call c k.call).value.1, (call c k.call).value.2.offset) := by
  cases k with
  | take r =>
    rw [step, text_eq, ← offset_take_eq]
    rfl
  | skip r =>
    rw [step, ← skip_sub, ← offset_take_eq]
    rfl
  | literal s =>
    rw [step, value_literalLogged, value_skipLiteralLogged, literal_eq, ← offset_literal_eq,
      Step.call, call, value_answerCheck]

theorem thread_eq (c : Cursor) (ks : List Step) :
    thread c.mode c.input c.offset ks = (calls c (ks.map Step.call)).value.1 := by
  induction ks generalizing c with
  | nil => rfl
  | cons k ks ih =>
    have htext := c.call_text k.call
    have hrest := ih (call c k.call).value.2
    rw [htext.1, htext.2] at hrest
    rw [thread, step_eq, hrest, List.map_cons, value_calls_cons]

/-- At every boundary of a text the scanners and a cursor that is moved there agree.
A run of any kind, be its test a class, a character, a set or a function, gives the same
text and ends at the same offset, and its number of bytes is the distance. A literal gives
the same result, its error included. So do steps of both kinds in any order, one after the
other. -/
theorem scanners_agree (mode : LineBreakMode) (t : Text) (offset : Nat)
    (h : t.IsBoundary offset) :
    ∃ c, (∀ d : Cursor, d.input = t → d.mode = mode → d.setPosition offset = (.ok (), c)) ∧
      (∀ r, (c.take r).1 = text mode t offset r ∧
        (c.take r).2.offset = skip mode t offset r ∧
        (c.skip r).1 = skip mode t offset r - offset ∧ offset ≤ skip mode t offset r ∧
        (c.skip r).2 = (c.take r).2) ∧
      (∀ s, (c.check (.literal s)).1 = (literalLogged t offset s).value ∧
        (skipLiteralLogged t offset s).value =
          (literalLogged t offset s).value.map (fun _ => (c.check (.literal s)).2.offset) ∧
        (c.check (.literal s)).2.offset =
          (skipLiteralLogged t offset s).value.toOption.getD offset) ∧
      ∀ ks, (calls c (ks.map Step.call)).value.1 = thread mode t offset ks := by
  obtain ⟨r, hr⟩ := Option.isSome_iff_exists.mp h
  obtain ⟨c, rfl, rfl, rfl⟩ :
      ∃ c : Cursor, c.input = t ∧ c.mode = mode ∧ c.offset = offset :=
    ⟨⟨t, mode, offset, r, hr⟩, rfl, rfl, rfl⟩
  refine ⟨c, fun d hi hm => setPosition_offset hi hm, ?_, ?_, fun ks => (thread_eq c ks).symm⟩
  · intro r
    have hle : c.offset ≤ skip c.mode c.input c.offset r := by
      rw [skip_eq]
      exact Nat.le_add_right _ _
    exact ⟨(text_eq c r).symm, offset_take_eq c r, skip_sub c r, hle, rfl⟩
  · intro s
    have hskip := skipLiteral_eq c s
    rw [← literal_eq] at hskip
    rw [value_literalLogged, value_skipLiteralLogged]
    exact ⟨(literal_eq c s).symm, hskip, offset_literal_eq c s⟩

/-- From behind the first character, a run, a line with its CRLF, and a literal that
the text does not go on with. -/
theorem scanners_agree_behind_first :
    let t : Text := ['é', 'a', '\r', '\n', 'b']
    let ks : List Step := [.take (.satisfying (· == 'a')), .skip (.restOfLine true),
      .literal ['x'], .literal ['b']]
    ∃ c, (start .ascii t).setPosition 2 = (.ok (), c) ∧ (c.take (.till ['\n'])).2.offset = 4 ∧
      (calls c (ks.map Step.call)).value.1 =
        [(.text ['a'], 3), (.number 2, 5), (.failed ⟨.noMatch, 5⟩, 5), (.text ['b'], 6)] := by
  intro t ks
  obtain ⟨c, hc, hruns, _, hsteps⟩ := scanners_agree .ascii t 2 (by decide)
  refine ⟨c, hc (start .ascii t) rfl rfl, (hruns (.till ['\n'])).2.1, ?_⟩
  rw [hsteps ks]
  rfl

end LexScan.OffsetScan
