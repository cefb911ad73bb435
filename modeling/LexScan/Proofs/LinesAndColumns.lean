import LexScan.Proofs.Positions
import LexScan.Proofs.ReportOfLines

/-!
# Lines and columns of a report

A report is made by going from terminator to terminator and measuring the bodies between
them; the position of an offset is found by going unit by unit and counting. Both come to
the same lines and columns: a text has as many lines as the position of its end tells, and
its longest line is as long as the largest column of its offsets.
-/

namespace LexScan

open LineBreakMode (BreakFree IsTerminator Lines)

namespace TextPosition

variable {mode : LineBreakMode} {t body terminator rest : Text}

/-! ## A walk over one line -/

theorem walk_char {c : Char} (h : mode.isBreak c = false) (t : Text) {n : Nat} (hn : 0 < n)
    (p : TextPosition) :
    walk mode (c :: t) n p = walk mode t (n - c.utf8Size) p.nextColumn := by
  obtain ⟨m, rfl⟩ : ∃ m, n = m + 1 := ⟨n - 1, by omega⟩
  have hcrlf : ¬ (c = '\r' ∧ t.head? = some '\n') := by
    rintro ⟨rfl, _⟩
    cases mode <;> cases h
  have hwalk := walk_cons mode hcrlf m p
  rw [h] at hwalk
  exact hwalk

theorem walk_terminator (h : mode.IsTerminator terminator rest) {n : Nat} (hn : 0 < n)
    (p : TextPosition) :
    walk mode (terminator ++ rest) n p = walk mode rest (n - terminator.size) p.nextLine := by
  obtain ⟨m, rfl⟩ : ∃ m, n = m + 1 := ⟨n - 1, by omega⟩
  cases h with
  | crlf => exact walk_crlf mode rest m p
  | single hbreak hcrlf =>
    have hwalk := walk_cons mode hcrlf m p
    rw [if_pos hbreak] at hwalk
    exact hwalk

/-- Within the body of a line a walk stays on the line, and no column is larger than the
body is long. -/
theorem walk_within (hbody : mode.BreakFree body) (rest : Text) {n : Nat} (hn : n ≤ body.size)
    (p : TextPosition) :
    ∃ k ≤ body.length, walk mode (body ++ rest) n p = ⟨p.line, p.col + k⟩ := by
  induction body generalizing n p with
  | nil =>
    obtain rfl := Nat.le_zero.mp hn
    exact ⟨0, Nat.le_refl 0, walk_zero mode _ p⟩
  | cons c body ih =>
    rcases Nat.eq_zero_or_pos n with rfl | hpos
    · exact ⟨0, Nat.zero_le _, walk_zero mode _ p⟩
    · have hc := hbody c List.mem_cons_self
      have hmore : mode.BreakFree body := fun d hd => hbody d (List.mem_cons_of_mem c hd)
      rw [Text.size_cons] at hn
      obtain ⟨k, hk, hwalk⟩ := ih hmore (n := n - c.utf8Size) (by omega) p.nextColumn
      refine ⟨k + 1, Nat.succ_le_succ hk, ?_⟩
      rw [List.cons_append, walk_char hc _ hpos, hwalk, nextColumn, Nat.add_assoc,
        Nat.add_comm 1 k]

/-- Behind the body of a line the column is the length of the body. -/
theorem walk_body (hbody : mode.BreakFree body) (rest : Text) (n : Nat) (p : TextPosition) :
    walk mode (body ++ rest) (body.size + n) p =
      walk mode rest n ⟨p.line, p.col + body.length⟩ := by
  induction body generalizing p with
  | nil => rw [List.nil_append, Text.size_nil, Nat.zero_add, List.length_nil, Nat.add_zero]
  | cons c body ih =>
    have hc := hbody c List.mem_cons_self
    have hmore : mode.BreakFree body := fun d hd => hbody d (List.mem_cons_of_mem c hd)
    have hpos := c.utf8Size_pos
    have hrest : c.utf8Size + Text.size body + n - c.utf8Size = Text.size body + n := by omega
    rw [List.cons_append, Text.size_cons, walk_char hc _ (by omega), hrest, ih hmore,
      nextColumn, List.length_cons, Nat.add_assoc, Nat.add_comm 1 body.length]

/-- Beyond the body of a line, also between CR and LF, the walk is on the next line. -/
theorem walk_line (hbody : mode.BreakFree body) (hend : mode.IsTerminator terminator rest)
    {n : Nat} (hn : body.size < n) (p : TextPosition) :
    walk mode (body ++ terminator ++ rest) n p =
      walk mode rest (n - (body.size + terminator.size)) p.nextLine := by
  obtain ⟨m, rfl⟩ := Nat.exists_eq_add_of_le (Nat.le_of_lt hn)
  have hrest : m - terminator.size = body.size + m - (body.size + terminator.size) := by omega
  rw [List.append_assoc, walk_body hbody, walk_terminator hend (by omega), hrest]
  rfl

/-! ## A walk over all lines -/

/-- What a walk over a text from column 0 comes to: the lines that it has begun by the end,
and the largest column on its way. -/
structure Measures (mode : LineBreakMode) (t : Text) (p : TextPosition) (lines longest : Nat) :
    Prop where
  lines_eq : p.line + lines =
    if (walk mode t t.size p).col = 0 then (walk mode t t.size p).line
    else (walk mode t t.size p).line + 1
  col_le : ∀ n, (walk mode t n p).col ≤ longest
  exists_col : ∃ n ≤ t.size, (walk mode t n p).col = longest

variable {p : TextPosition}

theorem measures_nil (hp : p.col = 0) : Measures mode [] p 0 0 where
  lines_eq := by rw [walk_nil, if_pos hp, Nat.add_zero]
  col_le n := by
    rw [walk_nil]
    exact Nat.le_of_eq hp
  exists_col := ⟨0, Nat.le_refl 0, hp⟩

/-- A last line without terminator is begun and not ended. -/
theorem measures_last (hne : body ≠ []) (hbody : mode.BreakFree body) (hp : p.col = 0) :
    Measures mode body p 1 body.length := by
  have hend : walk mode body body.size p = ⟨p.line, body.length⟩ := by
    have hwalk := walk_body hbody [] 0 p
    rwa [List.append_nil, walk_nil, hp, Nat.zero_add] at hwalk
  have hlength : body.length ≠ 0 := mt List.length_eq_zero_iff.mp hne
  constructor
  case lines_eq => rw [hend, if_neg hlength]
  case col_le =>
    intro n
    rcases Nat.le_total n body.size with hn | hn
    · obtain ⟨k, hk, hwalk⟩ := walk_within hbody [] hn p
      rw [List.append_nil] at hwalk
      rw [hwalk, hp, Nat.zero_add]
      exact hk
    · obtain ⟨m, rfl⟩ := Nat.exists_eq_add_of_le hn
      have hwalk := walk_body hbody [] m p
      rw [List.append_nil, walk_nil, hp, Nat.zero_add] at hwalk
      exact Nat.le_of_eq (congrArg TextPosition.col hwalk)
  case exists_col => exact ⟨body.size, Nat.le_refl _, by rw [hend]⟩

/-- One line more in front. -/
theorem Measures.line {lines longest : Nat} (hbody : mode.BreakFree body)
    (hend : mode.IsTerminator terminator rest) (hp : p.col = 0)
    (h : Measures mode rest p.nextLine lines longest) :
    Measures mode (body ++ terminator ++ rest) p (lines + 1) (max body.length longest) := by
  have hpos := Text.size_pos hend.ne_nil
  have hsize : Text.size (body ++ terminator ++ rest) =
      body.size + terminator.size + rest.size := by
    rw [Text.size_append, Text.size_append]
  constructor
  case lines_eq =>
    have hlines : p.line + 1 + lines = p.line + (lines + 1) := by omega
    rw [hsize, walk_line hbody hend (by omega), Nat.add_sub_cancel_left, ← hlines]
    exact h.lines_eq
  case col_le =>
    intro n
    rcases Nat.lt_or_ge body.size n with hn | hn
    · rw [walk_line hbody hend hn]
      exact Nat.le_trans (h.col_le _) (Nat.le_max_right _ _)
    · obtain ⟨k, hk, hwalk⟩ := walk_within hbody (terminator ++ rest) hn p
      rw [List.append_assoc, hwalk, hp, Nat.zero_add]
      exact Nat.le_trans hk (Nat.le_max_left _ _)
  case exists_col =>
    rcases Nat.le_total longest body.length with hle | hle
    · refine ⟨body.size, by omega, ?_⟩
      have hwalk := walk_body hbody (terminator ++ rest) 0 p
      rw [← List.append_assoc, walk_zero, Nat.add_zero] at hwalk
      rw [hwalk, hp, Nat.zero_add, Nat.max_eq_left hle]
    · obtain ⟨n, hn, hcol⟩ := h.exists_col
      refine ⟨body.size + terminator.size + n, by omega, ?_⟩
      rw [walk_line hbody hend (by omega), Nat.add_sub_cancel_left, hcol, Nat.max_eq_right hle]

/-- The walk over a text counts its lines and measures the bodies of these. -/
theorem measures_lines {pieces : List Text} (h : mode.Lines t pieces) (hp : p.col = 0) :
    Measures mode t p pieces.length (((pieces.map mode.body).map List.length).foldr max 0) := by
  induction h generalizing p with
  | done => exact measures_nil hp
  | @last body hne hbody =>
    have hself := LineBreakMode.body_of_breakFree hbody
    have hlongest : [body.length].foldr max 0 = body.length := Nat.max_zero _
    rw [List.map_singleton, List.map_singleton, hself, hlongest]
    exact measures_last hne hbody hp
  | @line body terminator rest more hbody hend hmore ih =>
    have hself := LineBreakMode.body_of_terminated hbody hend
    rw [List.map_cons, List.map_cons, hself]
    exact (ih rfl).line hbody hend hp

end TextPosition

namespace Report

open TextPosition (atOffset)

/-- A report has the lines and columns that positions tell: the line of the end of the text,
or one more if something stands on that line, is the number of lines, and the largest column
that an offset of the text has is the length of the longest line. -/
theorem attempt_positions (s : Source) :
    let last := atOffset s.mode s.text s.text.size
    ∃ counts, (attempt s).value = .ok ⟨s.name, counts⟩ ∧
      counts.lines = (if last.col = 0 then last.line else last.line + 1) ∧
      (∀ o, (atOffset s.mode s.text o).col ≤ counts.longestLine) ∧
      ∃ o ≤ s.text.size, (atOffset s.mode s.text o).col = counts.longestLine := by
  intro last
  obtain ⟨pieces, hlines⟩ := s.mode.exists_lines s.text
  obtain ⟨rows, hrows⟩ := exists_rows s.mode pieces
  have hmeasures := TextPosition.measures_lines hlines (p := .start) rfl
  have hcount : (Counts.reference (pieces.map s.mode.body) rows).lines = pieces.length :=
    List.length_map s.mode.body
  refine ⟨_, value_attempt hlines hrows, ?_, hmeasures.col_le, hmeasures.exists_col⟩
  rw [hcount, ← Nat.zero_add pieces.length]
  exact hmeasures.lines_eq

end Report

end LexScan
