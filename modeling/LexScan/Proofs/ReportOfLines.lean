import LexScan.Report
import LexScan.Proofs.LinePartition
import LexScan.Proofs.Segments
import Mathlib.Data.List.Forall2

/-!
# What a report counts

The report on a source counts the lines of its text and the tokens among the segments of
their bodies. `Counts.reference` says which number is which, with nothing about cursors
or loops. The scan that makes the report always comes to its end: of the failures that
could stop it none comes up, whatever the text.
-/

namespace LexScan

open CharClass (isWhiteSpace)
open Token (Segments kinds)

namespace Counts

/-- The figures of some lines, by their bodies and the segments of each. -/
def reference (bodies : List Text) (rows : List (List Segment)) : Counts where
  lines := bodies.length
  blankLines := bodies.countP (·.all isWhiteSpace)
  words := (rows.flatMap kinds).count .word
  numbers := (rows.flatMap kinds).count .number
  strings := (rows.flatMap kinds).count .string
  comments := (rows.flatMap kinds).count .comment
  symbols := (rows.flatMap kinds).count .symbol
  longestLine := (bodies.map List.length).foldr max 0

/-- All tokens. -/
def tokens (n : Counts) : Nat := n.words + n.numbers + n.strings + n.comments + n.symbols

theorem add_empty (a : Counts) : a + {} = a := by
  apply Counts.ext
  case longestLine => exact Nat.max_zero _
  all_goals rfl

theorem empty_add (a : Counts) : {} + a = a := by
  apply Counts.ext
  case longestLine => exact Nat.zero_max _
  all_goals exact Nat.zero_add _

theorem add_assoc (a b c : Counts) : a + b + c = a + (b + c) := by
  apply Counts.ext
  case longestLine => exact Nat.max_assoc _ _ _
  all_goals exact Nat.add_assoc _ _ _

/-- One line more adds the figures that the scan gives to it. -/
theorem reference_cons {body : Text} {row : List Segment} (h : Segments body row)
    (bodies : List Text) (rows : List (List Segment)) :
    reference (body :: bodies) (row :: rows) =
      ofLine (kinds row) body.length + reference bodies rows := by
  apply Counts.ext
  case lines => exact Nat.add_comm _ 1
  case blankLines =>
    have hblank : (kinds row).isEmpty = body.all isWhiteSpace := by
      rw [Bool.eq_iff_iff, List.isEmpty_iff]
      exact h.kinds_eq_nil_iff
    have hcount : (reference (body :: bodies) (row :: rows)).blankLines =
        (if body.all isWhiteSpace then 1 else 0) + bodies.countP (·.all isWhiteSpace) := by
      rw [reference, List.countP_cons, Nat.add_comm]
    rw [hcount, ← hblank]
    rfl
  case longestLine => rfl
  all_goals
    simp only [reference, List.flatMap_cons, List.count_append]
    rfl

end Counts

/-! ## The loop over lines -/

namespace Report

variable {c : Cursor} (name : Text)

theorem value_countFrom_of_isEof (h : c.isEof = true) (counted : Counts) :
    (countFrom name c counted).value = .ok counted := by
  rw [countFrom, dif_pos h]
  rfl

/-- One turn of the loop adds the figures of the line. -/
theorem value_countFrom_of_line {tokens : List TokenKind} (h : c.isEof = false)
    (htokens : (Token.all (.start c.mode (c.mode.body c.remaining))).value = .ok tokens)
    (counted : Counts) :
    (countFrom name c counted).value =
      (countFrom name c.wholeLine.2
        (counted + Counts.ofLine tokens (c.mode.body c.remaining).length)).value := by
  have hturn : (takeLine name c).attach.value.1 =
      (c.mode.body c.remaining, c.wholeLine.2) := value_takeLine name c
  rw [countFrom, dif_neg (by simp [h])]
  simp only [Logged.value_bind, hturn, htokens]

/-- The loop adds the figures of all lines that remain. -/
theorem value_countFrom {pieces : List Text} {rows : List (List Segment)}
    (h : c.mode.Lines c.remaining pieces)
    (hrows : List.Forall₂ Segments (pieces.map c.mode.body) rows) (counted : Counts) :
    (countFrom name c counted).value =
      .ok (counted + Counts.reference (pieces.map c.mode.body) rows) := by
  induction pieces generalizing c rows counted with
  | nil =>
    rcases Cursor.cases_lines h with ⟨heof, _⟩ | ⟨_, _, hpieces, _⟩
    · cases hrows
      rw [value_countFrom_of_isEof name heof]
      exact congrArg Except.ok counted.add_empty.symm
    · cases hpieces
  | cons piece pieces ih =>
    rcases Cursor.cases_lines h with ⟨_, hpieces⟩ | ⟨more, heof, hpieces, hmore⟩
    · cases hpieces
    obtain ⟨rfl, rfl⟩ := List.cons.inj hpieces
    obtain ⟨row, rows, hrow, hrows', rfl⟩ := List.forall₂_cons_left_iff.mp hrows
    have hbody : c.mode.body c.wholeLine.1 = c.mode.body c.remaining := c.mode.body_line c.remaining
    rw [hbody] at hrow
    have htokens := Token.value_all (c.mode.breakFree_body c.remaining) hrow
    rw [value_countFrom_of_line name heof htokens, List.map_cons, hbody,
      Counts.reference_cons hrow, ← Counts.add_assoc]
    exact ih (c := c.wholeLine.2) hmore hrows' _

/-- Every line has its segments, whatever lines there are. -/
theorem exists_rows (mode : LineBreakMode) (pieces : List Text) :
    ∃ rows, List.Forall₂ Segments (pieces.map mode.body) rows := by
  induction pieces with
  | nil => exact ⟨[], .nil⟩
  | cons piece pieces ih =>
    obtain ⟨row, hrow⟩ := Token.exists_segments (mode.breakFree_body piece)
    obtain ⟨rows, hrows⟩ := ih
    exact ⟨row :: rows, .cons hrow hrows⟩

theorem rows_unique {bodies : List Text} {rows others : List (List Segment)}
    (h : List.Forall₂ Segments bodies rows) (hothers : List.Forall₂ Segments bodies others) :
    rows = others := by
  induction h generalizing others with
  | nil =>
    cases hothers
    rfl
  | cons hrow _ ih =>
    cases hothers with
    | cons hother hrest => rw [hrow.unique hother, ih hrest]

theorem rows_text {bodies : List Text} {rows : List (List Segment)}
    (h : List.Forall₂ Segments bodies rows) :
    rows.map (fun row => (row.map Segment.text).flatten) = bodies := by
  induction h with
  | nil => rfl
  | cons hrow _ ih => rw [List.map_cons, hrow.flatten, ih]

/-! ## Bounds -/

/-- What holds of the figures of every text with some number of characters that are not
white space. -/
structure Bounded (n : Counts) (visible : Nat) : Prop where
  lines_le : n.lines ≤ n.blankLines + n.tokens
  tokens_le : n.tokens ≤ visible
  comments_le : n.blankLines + n.comments ≤ n.lines

theorem Bounded.add {a b : Counts} {v w : Nat} (ha : Bounded a v) (hb : Bounded b w) :
    Bounded (a + b) (v + w) := by
  have htokens : (a + b).tokens = a.tokens + b.tokens := by
    have hsum : (a + b).tokens = (a.words + b.words) + (a.numbers + b.numbers) +
        (a.strings + b.strings) + (a.comments + b.comments) + (a.symbols + b.symbols) := rfl
    simp only [Counts.tokens] at hsum ⊢
    omega
  have hlines : (a + b).lines = a.lines + b.lines := rfl
  have hblank : (a + b).blankLines = a.blankLines + b.blankLines := rfl
  have hcomments : (a + b).comments = a.comments + b.comments := rfl
  obtain ⟨ha₁, ha₂, ha₃⟩ := ha
  obtain ⟨hb₁, hb₂, hb₃⟩ := hb
  constructor <;> omega

theorem tokens_ofLine (ks : List TokenKind) (n : Nat) :
    (Counts.ofLine ks n).tokens = ks.length := by
  simp only [Counts.tokens, Counts.ofLine]
  induction ks with
  | nil => rfl
  | cons k ks ih =>
    rw [List.length_cons, ← ih]
    cases k <;> simp <;> omega

/-- A line that is not blank has a token at least and no more tokens than characters other
than white space, one comment at most among them; a blank line has none. -/
theorem bounded_ofLine {body : Text} {row : List Segment} (h : Segments body row) (n : Nat) :
    Bounded (Counts.ofLine (kinds row) n) (body.countP (!isWhiteSpace ·)) := by
  have htokens := tokens_ofLine (kinds row) n
  have hvisible := h.length_kinds_le
  have hcomments := h.count_comment_le
  have hlines : (Counts.ofLine (kinds row) n).lines = 1 := rfl
  have hcomments' : (Counts.ofLine (kinds row) n).comments = (kinds row).count .comment := rfl
  by_cases hnone : kinds row = []
  · have hblank : (Counts.ofLine (kinds row) n).blankLines = 1 := by
      rw [hnone]
      rfl
    have hcount : (kinds row).count .comment = 0 := by
      rw [hnone]
      rfl
    constructor <;> omega
  · have hblank : (Counts.ofLine (kinds row) n).blankLines = 0 := by
      have hempty : (kinds row).isEmpty = false := by simp [hnone]
      simp [Counts.ofLine, hempty]
    have hpos := List.length_pos_iff.mpr hnone
    constructor <;> omega

theorem bounded_reference {bodies : List Text} {rows : List (List Segment)}
    (h : List.Forall₂ Segments bodies rows) :
    Bounded (Counts.reference bodies rows) (bodies.flatten.countP (!isWhiteSpace ·)) := by
  induction h with
  | nil => constructor <;> exact Nat.le_refl 0
  | cons hrow _ ih =>
    rw [Counts.reference_cons hrow, List.flatten_cons, List.countP_append]
    exact (bounded_ofLine hrow _).add ih

/-- The bodies of lines hold no characters that the text does not. -/
theorem countP_bodies_le (mode : LineBreakMode) (pieces : List Text) (p : Char → Bool) :
    (pieces.map mode.body).flatten.countP p ≤ pieces.flatten.countP p := by
  induction pieces with
  | nil => exact Nat.le_refl 0
  | cons piece pieces ih =>
    have hbody : (mode.body piece).countP p ≤ piece.countP p :=
      (List.takeWhile_prefix _).sublist.countP_le
    rw [List.map_cons, List.flatten_cons, List.flatten_cons, List.countP_append,
      List.countP_append]
    omega

/-! ## The report -/

variable {s : Source} {pieces : List Text} {rows : List (List Segment)}

theorem value_attempt (h : s.mode.Lines s.text pieces)
    (hrows : List.Forall₂ Segments (pieces.map s.mode.body) rows) :
    (attempt s).value = .ok ⟨s.name, Counts.reference (pieces.map s.mode.body) rows⟩ := by
  have hcount := value_countFrom s.name (c := s.cursor) h hrows {}
  rw [Counts.empty_add] at hcount
  rw [attempt, Logged.value_bind, Logged.value_map, hcount]
  rfl

/-- The scan of a source comes to an end with a report, for every text in either mode. The
lines of the text and the segments of their bodies, which are the only ones, give the
figures; and from line to line the segments make up the bodies without gap. A line that is
not blank has a token at least, and no more than one comment, and there are no more tokens
than characters other than white space. -/
theorem attempt_reference (s : Source) :
    ∃ pieces rows,
      (∀ ps, s.mode.Lines s.text ps ↔ ps = pieces) ∧
      (∀ rs, List.Forall₂ Segments (pieces.map s.mode.body) rs ↔ rs = rows) ∧
      rows.map (fun row => (row.map Segment.text).flatten) = pieces.map s.mode.body ∧
      let counts := Counts.reference (pieces.map s.mode.body) rows
      (attempt s).value = .ok ⟨s.name, counts⟩ ∧ (scan s).value = ⟨s.name, counts⟩ ∧
      counts.blankLines ≤ counts.lines ∧
      counts.lines - counts.blankLines ≤ counts.tokens ∧
      counts.tokens ≤ s.text.countP (!isWhiteSpace ·) ∧
      counts.comments ≤ counts.lines - counts.blankLines := by
  obtain ⟨pieces, hlines⟩ := s.mode.exists_lines s.text
  obtain ⟨rows, hrows⟩ := exists_rows s.mode pieces
  have hattempt := value_attempt hlines hrows
  obtain ⟨hbounds₁, hbounds₂, hbounds₃⟩ := bounded_reference hrows
  have hvisible := countP_bodies_le s.mode pieces (!isWhiteSpace ·)
  rw [hlines.flatten] at hvisible
  refine ⟨pieces, rows, ?_, ?_, rows_text hrows, hattempt, ?_, ?_, ?_, ?_, ?_⟩
  · intro ps
    constructor
    · exact fun h => h.unique hlines
    · rintro rfl
      exact hlines
  · intro rs
    constructor
    · exact fun h => rows_unique h hrows
    · rintro rfl
      exact hrows
  · rw [scan, Logged.value_map, hattempt]
    rfl
  all_goals omega

end Report

end LexScan
