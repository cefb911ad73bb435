import LexScan.Cursor.Call.Lemmas
import LexScan.Proofs.Lines
import Mathlib.Data.List.Basic

/-!
# From positions back to offsets

The line and the column of an offset lead back to it: a cursor that takes as many lines
and then as many characters stands there again. Where the offset is inside a character,
between CR and LF or past the end, the cursor stands at the next place that is not, or at
the end. So of all offsets where a cursor can stand without dividing a CRLF no two have
the same position.
-/

namespace LexScan

namespace Text

/-- An offset of a text that is neither inside a character nor between CR and LF. -/
def IsStop (t : Text) (n : Nat) : Prop :=
  ∃ s r, t = s ++ r ∧ n = s.size ∧ ¬ (s.getLast? = some '\r' ∧ r.head? = some '\n')

/-- The least offset of that kind that is no less than `n`, or the end of the text. -/
def IsNextStop (t : Text) (n m : Nat) : Prop :=
  t.IsStop m ∧ min n t.size ≤ m ∧ ∀ k, t.IsStop k → min n t.size ≤ k → m ≤ k

/-- CRLF, or a character that is not the CR of a CRLF, in front of the rest of a text. -/
inductive IsUnit : Text → Text → Prop where
  | crlf (rest : Text) : IsUnit ['\r', '\n'] rest
  | single {c : Char} {rest : Text} (hcrlf : ¬ (c = '\r' ∧ rest.head? = some '\n')) :
      IsUnit [c] rest

variable {u rest t : Text}

theorem isStop_zero (t : Text) : t.IsStop 0 := ⟨[], t, rfl, rfl, by simp⟩

theorem exists_unit (h : t ≠ []) : ∃ u rest, t = u ++ rest ∧ IsUnit u rest := by
  cases t with
  | nil => exact absurd rfl h
  | cons c t =>
    by_cases hcrlf : c = '\r' ∧ t.head? = some '\n'
    · obtain ⟨rfl, hhead⟩ := hcrlf
      obtain ⟨rest, rfl⟩ := List.head?_eq_some_iff.mp hhead
      exact ⟨['\r', '\n'], rest, rfl, .crlf rest⟩
    · exact ⟨[c], t, rfl, .single hcrlf⟩

theorem IsUnit.ne_nil (h : IsUnit u rest) : u ≠ [] := by
  cases h <;> exact List.cons_ne_nil _ _

/-- Every text is read unit by unit. -/
@[elab_as_elim] theorem unit_induction {motive : Text → Prop} (nil : motive [])
    (unit : ∀ u rest, IsUnit u rest → motive rest → motive (u ++ rest)) (t : Text) :
    motive t := by
  induction hn : t.length using Nat.strongRecOn generalizing t with
  | ind n ih =>
    by_cases hnil : t = []
    · exact hnil ▸ nil
    · obtain ⟨u, rest, rfl, hunit⟩ := exists_unit hnil
      have hpos := List.length_pos_iff.mpr hunit.ne_nil
      rw [List.length_append] at hn
      exact unit u rest hunit (ih _ (by omega) rest rfl)

theorem IsUnit.size_pos (h : IsUnit u rest) : 0 < u.size := Text.size_pos h.ne_nil

/-- An initial piece that ends at a stop holds the first unit whole, or nothing. -/
theorem IsUnit.isPrefix_of_seam {s r : Text} (h : IsUnit u rest) (hsplit : u ++ rest = s ++ r)
    (hcrlf : ¬ (s.getLast? = some '\r' ∧ r.head? = some '\n')) : s = [] ∨ u <+: s := by
  by_cases hs : s = []
  · exact .inl hs
  obtain ⟨c, s', rfl⟩ := List.exists_cons_of_ne_nil hs
  refine .inr ?_
  cases h with
  | crlf =>
    obtain ⟨rfl, hrest⟩ := List.cons.inj hsplit
    cases s' with
    | nil =>
      obtain rfl : '\n' :: rest = r := hrest
      exact absurd ⟨rfl, rfl⟩ hcrlf
    | cons d s' =>
      obtain ⟨rfl, _⟩ := List.cons.inj hrest
      exact ⟨s', rfl⟩
  | single _ =>
    obtain ⟨rfl, _⟩ := List.cons.inj hsplit
    exact ⟨s', rfl⟩

/-- Inside a unit there is no stop, and behind it there are those of the rest. -/
theorem isStop_unit_iff (h : IsUnit u rest) {n : Nat} :
    (u ++ rest).IsStop n ↔ n = 0 ∨ ∃ m, n = u.size + m ∧ rest.IsStop m := by
  constructor
  · rintro ⟨s, r, hsplit, rfl, hcrlf⟩
    rcases h.isPrefix_of_seam hsplit hcrlf with rfl | ⟨s', rfl⟩
    · exact .inl rfl
    · rw [List.append_assoc] at hsplit
      refine .inr ⟨size s', size_append u s', s', r, List.append_cancel_left hsplit, rfl, ?_⟩
      rintro ⟨hlast, hhead⟩
      have hne : s' ≠ [] := by
        rintro rfl
        cases hlast
      exact hcrlf ⟨(List.getLast?_append_of_ne_nil u hne).trans hlast, hhead⟩
  · rintro (rfl | ⟨m, rfl, s, r, rfl, rfl, hcrlf⟩)
    · exact isStop_zero _
    · refine ⟨u ++ s, r, (List.append_assoc u s r).symm, (size_append u s).symm, ?_⟩
      rintro ⟨hlast, hhead⟩
      by_cases hs : s = []
      · subst hs
        rw [List.append_nil] at hlast
        cases h with
        | crlf => cases hlast
        | single hunit => exact hunit ⟨Option.some.inj hlast, hhead⟩
      · rw [List.getLast?_append_of_ne_nil u hs] at hlast
        exact hcrlf ⟨hlast, hhead⟩

theorem IsStop.le_size {n : Nat} (h : t.IsStop n) : n ≤ t.size := by
  obtain ⟨s, r, rfl, rfl, _⟩ := h
  rw [size_append]
  omega

theorem isNextStop_zero (t : Text) : t.IsNextStop 0 0 :=
  ⟨isStop_zero t, Nat.min_le_left 0 _, fun k _ _ => Nat.zero_le k⟩

theorem isNextStop_nil (n : Nat) : IsNextStop [] n 0 :=
  ⟨isStop_zero [], Nat.min_le_right n _, fun k _ _ => Nat.zero_le k⟩

/-- Behind the start the next stop is no sooner than behind the first unit. -/
theorem IsNextStop.unit {n m : Nat} (hunit : IsUnit u rest) (hn : 0 < n)
    (h : rest.IsNextStop (n - u.size) m) : (u ++ rest).IsNextStop n (u.size + m) := by
  obtain ⟨hstop, hle, hleast⟩ := h
  have hpos := hunit.size_pos
  refine ⟨(isStop_unit_iff hunit).mpr (.inr ⟨m, rfl, hstop⟩), ?_, ?_⟩
  · rw [size_append]
    omega
  · intro k hk hle'
    rw [size_append] at hle'
    rcases (isStop_unit_iff hunit).mp hk with rfl | ⟨k', rfl, hk'⟩
    · omega
    · have := hleast k' hk' (by omega)
      omega

/-- A stop is the next one to itself. -/
theorem IsNextStop.eq_of_isStop {n m : Nat} (h : t.IsNextStop n m) (hn : t.IsStop n) : m = n := by
  obtain ⟨_, hle, hleast⟩ := h
  have hsize := hn.le_size
  have := hleast n hn (by omega)
  omega

end Text

/-! ## Going to a line and a column -/

/-- The calls that go from the start of a text to a position: whole lines, then characters. -/
def TextPosition.route (p : TextPosition) : List Cursor.Call :=
  List.replicate p.line (.take (.restOfLine true)) ++ [.check (.horizon p.col)]

namespace Cursor

/-- Taking some lines and then some characters succeeds and leaves `r`. -/
def LeadsTo (c : Cursor) (lines col : Nat) (r : Text) : Prop :=
  let d := (calls c (List.replicate lines (.take (.restOfLine true)))).value.2
  col ≤ d.remaining.length ∧ d.remaining.drop col = r

theorem leadsTo_column {c : Cursor} {pre r : Text} (h : c.remaining = pre ++ r) :
    c.LeadsTo 0 pre.length r := by
  have hcalls : (calls c (List.replicate 0 (.take (.restOfLine true)))).value.2 = c := rfl
  rw [LeadsTo, hcalls, h]
  constructor
  · rw [List.length_append]
    omega
  · exact List.drop_left

theorem remaining_take_line {c : Cursor} {body terminator rest : Text}
    (h : c.remaining = body ++ (terminator ++ rest)) (hbody : c.mode.BreakFree body)
    (hend : c.mode.IsTerminator terminator rest) :
    (c.take (.restOfLine true)).2.remaining = rest := by
  have htake : c.mode.line true c.remaining ++ (c.take (.restOfLine true)).2.remaining =
      c.remaining := c.append_remaining_take (.restOfLine true)
  rw [h, ← List.append_assoc, LineBreakMode.line_append hbody hend] at htake
  exact List.append_cancel_left htake

/-- Behind a line the way goes on from there. -/
theorem leadsTo_line {c : Cursor} {r : Text} {lines col : Nat}
    (h : (c.take (.restOfLine true)).2.LeadsTo lines col r) : c.LeadsTo (lines + 1) col r := by
  have hcalls : (calls c (List.replicate (lines + 1) (.take (.restOfLine true)))).value.2 =
      (calls (c.take (.restOfLine true)).2
        (List.replicate lines (.take (.restOfLine true)))).value.2 := by
    rw [List.replicate_succ, value_calls_cons]
    rfl
  rw [LeadsTo, hcalls]
  exact h

/-- The way is gone to its end. -/
theorem LeadsTo.value_calls {c : Cursor} {r : Text} {lines col : Nat}
    (h : c.LeadsTo lines col r) :
    ∃ answers piece last,
      (calls c (List.replicate lines (.take (.restOfLine true)) ++ [.check (.horizon col)])).value =
        (answers ++ [(.text piece, last.offset)], last) ∧
      last.input = c.input ∧ last.remaining = r := by
  obtain ⟨hlength, hrest⟩ := h
  obtain ⟨answers, d, hlines⟩ :
      ∃ answers d, (calls c (List.replicate lines (.take (.restOfLine true)))).value =
        (answers, d) := ⟨_, _, rfl⟩
  have htext := (c.calls_text (List.replicate lines (.take (.restOfLine true)))).1
  rw [hlines] at hlength hrest htext
  have hcheck := check_horizon_of_le hlength
  refine ⟨answers, d.remaining.take col, d.advance col, ?_, htext, hrest⟩
  rw [value_calls_append, hlines, value_calls_cons, call, value_answerCheck, hcheck]
  rfl

end Cursor

namespace TextPosition

open Text (IsUnit)

/-- From the start of a line, where a walk over `t` started at `p`, the way that its end
tells leads to the next stop behind `n`. -/
def Arrives (c : Cursor) (p finish : TextPosition) (t : Text) (n : Nat) : Prop :=
  ∃ lines s r, finish.line = p.line + lines ∧ t = s ++ r ∧ t.IsNextStop n s.size ∧
    c.LeadsTo lines finish.col r

variable {c : Cursor} {p finish : TextPosition} {pre u rest : Text} {n : Nat}

theorem Arrives.here {t : Text} (hc : c.remaining = pre ++ t) (hcol : p.col = pre.length)
    (hstop : t.IsNextStop n 0) : Arrives c p p t n := by
  refine ⟨0, [], t, rfl, rfl, hstop, ?_⟩
  rw [hcol]
  exact Cursor.leadsTo_column hc

theorem Arrives.line (hunit : IsUnit u rest) (hn : 0 < n)
    (h : Arrives (c.take (.restOfLine true)).2 p.nextLine finish rest (n - u.size)) :
    Arrives c p finish (u ++ rest) n := by
  obtain ⟨lines, s, r, hline, rfl, hstop, hleads⟩ := h
  refine ⟨lines + 1, u ++ s, r, ?_, (List.append_assoc u s r).symm, ?_, Cursor.leadsTo_line hleads⟩
  · simp only [nextLine] at hline
    omega
  · rw [Text.size_append]
    exact hstop.unit hunit hn

theorem Arrives.column (hunit : IsUnit u rest) (hn : 0 < n)
    (h : Arrives c p.nextColumn finish rest (n - u.size)) : Arrives c p finish (u ++ rest) n := by
  obtain ⟨lines, s, r, hline, rfl, hstop, hleads⟩ := h
  refine ⟨lines, u ++ s, r, hline, (List.append_assoc u s r).symm, ?_, hleads⟩
  rw [Text.size_append]
  exact hstop.unit hunit hn

/-- A walk goes on behind the first unit, on the next line if that is a terminator. -/
theorem walk_unit (mode : LineBreakMode) (h : IsUnit u rest) :
    (mode.IsTerminator u rest ∧ ∀ n p, 0 < n →
        walk mode (u ++ rest) n p = walk mode rest (n - u.size) p.nextLine) ∨
      (mode.BreakFree u ∧ u.length = 1 ∧ ∀ n p, 0 < n →
        walk mode (u ++ rest) n p = walk mode rest (n - u.size) p.nextColumn) := by
  have hsucc : ∀ n, 0 < n → ∃ m, n = m + 1 := fun n hn => ⟨n - 1, by omega⟩
  cases h with
  | crlf =>
    refine .inl ⟨.crlf rest, fun n p hn => ?_⟩
    obtain ⟨m, rfl⟩ := hsucc n hn
    exact walk_crlf mode rest m p
  | @single x _ hcrlf =>
    by_cases hbreak : mode.isBreak x = true
    · refine .inl ⟨.single hbreak hcrlf, fun n p hn => ?_⟩
      obtain ⟨m, rfl⟩ := hsucc n hn
      have hwalk := walk_cons mode hcrlf m p
      rwa [if_pos hbreak] at hwalk
    · refine .inr ⟨?_, rfl, fun n p hn => ?_⟩
      · intro y hy
        obtain rfl := List.mem_singleton.mp hy
        exact Bool.eq_false_iff.mpr hbreak
      · obtain ⟨m, rfl⟩ := hsucc n hn
        have hwalk := walk_cons mode hcrlf m p
        rwa [if_neg hbreak] at hwalk

/-- The walk arrives, whatever is behind it on its first line. -/
theorem arrives_walk (t : Text) (n : Nat) (hc : c.remaining = pre ++ t)
    (hfree : c.mode.BreakFree pre) (hcol : p.col = pre.length) :
    Arrives c p (walk c.mode t n p) t n := by
  induction t using Text.unit_induction generalizing c p n pre with
  | nil =>
    rw [walk_nil]
    exact .here hc hcol (Text.isNextStop_nil n)
  | unit u rest hunit ih =>
    rcases Nat.eq_zero_or_pos n with rfl | hn
    · rw [walk_zero]
      exact .here hc hcol (Text.isNextStop_zero _)
    -- A terminator is taken with all that is behind the walk; any other unit adds to that.
    rcases walk_unit c.mode hunit with ⟨hend, hwalk⟩ | ⟨hfree', hone, hwalk⟩
    · have hrest : (c.take (.restOfLine true)).2.remaining = [] ++ rest :=
        Cursor.remaining_take_line hc hfree hend
      rw [hwalk n p hn]
      exact .line hunit hn (ih _ hrest c.mode.breakFree_nil rfl)
    · have hc' : c.remaining = (pre ++ u) ++ rest := by
        rw [hc, List.append_assoc]
      have hcol' : p.nextColumn.col = (pre ++ u).length := by
        rw [nextColumn, hcol, List.length_append, hone]
      have hpre : c.mode.BreakFree (pre ++ u) := by
        intro y hy
        rcases List.mem_append.mp hy with hy | hy
        · exact hfree y hy
        · exact hfree' y hy
      rw [hwalk n p hn]
      exact .column hunit hn (ih _ hc' hpre hcol')

/-- The route of the position of an offset can be gone to its end, which is the next stop
at or behind the offset. -/
theorem value_route (mode : LineBreakMode) (t : Text) (o : Nat) :
    ∃ answers piece last,
      (Cursor.calls (.start mode t) (atOffset mode t o).route).value =
        (answers ++ [(.text piece, last.offset)], last) ∧ t.IsNextStop o last.offset := by
  have harrives : Arrives (.start mode t) start (atOffset mode t o) t o :=
    arrives_walk t o rfl mode.breakFree_nil rfl
  obtain ⟨lines, s, r, hline, ht, hstop, hleads⟩ := harrives
  obtain ⟨answers, piece, last, hroute, hinput, hremaining⟩ := hleads.value_calls
  have hlines : (atOffset mode t o).line = lines := by
    simp only [start] at hline
    omega
  have hoffset : last.offset = s.size := by
    have hsize := last.size_input
    have ht' : t.size = s.size + r.size := by rw [ht, Text.size_append]
    have hi : last.input = t := hinput
    rw [hi, hremaining] at hsize
    omega
  rw [route, hlines, hroute]
  exact ⟨answers, piece, last, rfl, hoffset ▸ hstop⟩

/-- The line and the column of an offset, whatever number this is, lead back to it: taking
whole lines and then characters succeeds and ends at the least offset, no less than the
given one or the end of the text, that is neither inside a character nor between CR and
LF. So offsets of that kind that have the same position are the same. -/
theorem route_leads_back (mode : LineBreakMode) (t : Text) (o : Nat) :
    ∃ answers piece last,
      (Cursor.calls (.start mode t) (atOffset mode t o).route).value =
        (answers ++ [(.text piece, last.offset)], last) ∧
      t.IsStop last.offset ∧ min o t.size ≤ last.offset ∧
      (∀ n, t.IsStop n → min o t.size ≤ n → last.offset ≤ n) ∧
      (t.IsStop o → last.offset = o ∧
        ∀ other, t.IsStop other → atOffset mode t other = atOffset mode t o → other = o) := by
  obtain ⟨answers, piece, last, hroute, hnext⟩ := value_route mode t o
  refine ⟨answers, piece, last, hroute, hnext.1, hnext.2.1, hnext.2.2, ?_⟩
  intro ho
  have hlast := hnext.eq_of_isStop ho
  refine ⟨hlast, ?_⟩
  intro other hother hsame
  obtain ⟨answers', piece', last', hroute', hnext'⟩ := value_route mode t other
  rw [hsame, hroute] at hroute'
  obtain rfl : last = last' := congrArg Prod.snd hroute'
  exact (hnext'.eq_of_isStop hother).symm.trans hlast

-- Between CR and LF, and behind both.
example : atOffset .ascii ['é', '\r', '\n', 'x'] 3 = ⟨1, 0⟩ ∧
    atOffset .ascii ['é', '\r', '\n', 'x'] 4 = ⟨1, 0⟩ := by decide

end TextPosition

end LexScan
