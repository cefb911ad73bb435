import LexScan.Report.Print
import LexScan.Proofs.ReportOfLines
import Mathlib.Algebra.Ring.Nat

/-!
# Totals of reports

The figures of a total are sums over the reports, but for the longest line, which is the
longest there is. So a total knows neither the order of the reports nor how they were
grouped, and 64 bits hold it in every order and grouping or in none: a partial sum is never
larger than the whole.

What is printed is one row for each report and, if there are several, one for their total.
-/

namespace LexScan

namespace Counts

/-- The figures of several counts: all of them summed up, but the longest line the longest. -/
def sum (all : List Counts) : Counts where
  lines := (all.map Counts.lines).sum
  blankLines := (all.map Counts.blankLines).sum
  words := (all.map Counts.words).sum
  numbers := (all.map Counts.numbers).sum
  strings := (all.map Counts.strings).sum
  comments := (all.map Counts.comments).sum
  symbols := (all.map Counts.symbols).sum
  longestLine := (all.map Counts.longestLine).foldr max 0

/-- Every figure is a number of 64 bits. -/
def Fits (a : Counts) : Prop :=
  a.lines < 2 ^ 64 ∧ a.blankLines < 2 ^ 64 ∧ a.words < 2 ^ 64 ∧ a.numbers < 2 ^ 64 ∧
    a.strings < 2 ^ 64 ∧ a.comments < 2 ^ 64 ∧ a.symbols < 2 ^ 64 ∧ a.longestLine < 2 ^ 64

instance (a : Counts) : Decidable a.Fits := inferInstanceAs (Decidable (_ ∧ _))

/-- The counts, if 64 bits hold every figure. -/
def fitting? (a : Counts) : Option Counts := if a.Fits then some a else none

def add? (a b : Counts) : Option Counts := (a + b).fitting?

variable {a b : Counts} {all more : List Counts}

/-! ## Addition -/

theorem add_comm (a b : Counts) : a + b = b + a := by
  apply Counts.ext
  case longestLine => exact Nat.max_comm _ _
  all_goals exact Nat.add_comm _ _

/-- No figure of a sum is smaller than those it is made of. -/
theorem Fits.left (h : (a + b).Fits) : a.Fits := by
  obtain ⟨h₁, h₂, h₃, h₄, h₅, h₆, h₇, h₈⟩ := h
  exact ⟨Nat.lt_of_add_right_lt h₁, Nat.lt_of_add_right_lt h₂, Nat.lt_of_add_right_lt h₃,
    Nat.lt_of_add_right_lt h₄, Nat.lt_of_add_right_lt h₅, Nat.lt_of_add_right_lt h₆,
    Nat.lt_of_add_right_lt h₇, Nat.lt_of_le_of_lt (Nat.le_max_left _ _) h₈⟩

theorem add?_comm (a b : Counts) : a.add? b = b.add? a := by rw [add?, add?, add_comm]

theorem add?_empty (h : a.Fits) : a.add? {} = some a := by
  rw [add?, add_empty, fitting?, if_pos h]

theorem fitting?_bind_add? (a b : Counts) :
    (a.fitting?.bind fun x => x.add? b) = (a + b).fitting? := by
  by_cases h : a.Fits
  · rw [fitting?, if_pos h]
    rfl
  · have hsum : ¬ (a + b).Fits := fun hsum => h hsum.left
    rw [fitting?, fitting?, if_neg h, if_neg hsum]
    rfl

theorem fitting?_bind_add?_right (a b : Counts) :
    (b.fitting?.bind fun y => a.add? y) = (a + b).fitting? := by
  simp only [add?_comm a]
  rw [fitting?_bind_add?, add_comm]

/-- Three counts are added up to the same in either grouping, if 64 bits hold it. -/
theorem add?_assoc (a b c : Counts) :
    ((a.add? b).bind fun x => x.add? c) = (b.add? c).bind fun y => a.add? y := by
  rw [add?, add?, fitting?_bind_add?, fitting?_bind_add?_right, add_assoc]

/-! ## Sums -/

theorem sum_cons (a : Counts) (all : List Counts) : sum (a :: all) = a + sum all := rfl

theorem sum_append (all more : List Counts) : sum (all ++ more) = sum all + sum more := by
  induction all with
  | nil => exact (empty_add _).symm
  | cons a all ih => rw [List.cons_append, sum_cons, sum_cons, ih, add_assoc]

theorem sum_perm (h : all.Perm more) : sum all = sum more := by
  induction h with
  | nil => rfl
  | cons a _ ih => rw [sum_cons, sum_cons, ih]
  | swap a b all =>
    rw [sum_cons, sum_cons, sum_cons, sum_cons, ← add_assoc, ← add_assoc, add_comm b a]
  | trans _ _ ih₁ ih₂ => exact ih₁.trans ih₂

end Counts

namespace Report

/-- Reports added up in some order and grouping, from names without figures. -/
inductive Grouping where
  | start (name : Text)
  | one (r : Report)
  | both (first second : Grouping)

def add? (r other : Report) : Option Report :=
  (r.counts.add? other.counts).map (⟨r.name, ·⟩)

namespace Grouping

/-- The reports that are added up, from left to right. -/
def reports : Grouping → List Report
  | start _ => []
  | one r => [r]
  | both first second => first.reports ++ second.reports

/-- What the reports add up to, if 64 bits hold all that comes up on the way. -/
def total? : Grouping → Option Report
  | start name => some ⟨name, {}⟩
  | one r => some r
  | both first second => first.total?.bind fun r => second.total?.bind r.add?

end Grouping

/-- The total of several reports, under its name. -/
def totals (reports : List Report) : List Report :=
  if 1 < reports.length then [⟨totalName, Counts.sum (reports.map Report.counts)⟩] else []

/-- A figure before its label. -/
def figureText (label : Text) (n : Nat) : Text := [' '] ++ Text.ofNat n ++ [' '] ++ label

/-- A report as one line: its name and a colon, and all figures. -/
def row (r : Report) : Text :=
  r.name ++ [':'] ++ figureText "lines".toList r.counts.lines
    ++ figureText "blank".toList r.counts.blankLines ++ figureText "words".toList r.counts.words
    ++ figureText "numbers".toList r.counts.numbers
    ++ figureText "strings".toList r.counts.strings
    ++ figureText "comments".toList r.counts.comments
    ++ figureText "symbols".toList r.counts.symbols
    ++ figureText "longest".toList r.counts.longestLine

variable {r : Report} {reports others : List Report}

/-! ## Totals -/

theorem counts_foldl_add (r : Report) (reports : List Report) :
    reports.foldl add r = ⟨r.name, r.counts + Counts.sum (reports.map Report.counts)⟩ := by
  induction reports generalizing r with
  | nil => exact congrArg (Report.mk r.name) r.counts.add_empty.symm
  | cons other reports ih =>
    rw [List.foldl_cons, ih, List.map_cons, Counts.sum_cons, ← Counts.add_assoc]
    rfl

theorem total_eq (name : Text) (reports : List Report) :
    total name reports = ⟨name, Counts.sum (reports.map Report.counts)⟩ := by
  rw [total, counts_foldl_add, Counts.empty_add]

theorem counts_add? (r other : Report) :
    (r.add? other).map Report.counts = r.counts.add? other.counts := by
  rw [add?, Option.map_map]
  exact Option.map_id_apply

theorem Grouping.counts_both (first second : Grouping) :
    (both first second).total?.map Report.counts =
      (first.total?.map Report.counts).bind fun a =>
        (second.total?.map Report.counts).bind fun b => a.add? b := by
  rw [total?]
  cases first.total? with
  | none => rfl
  | some r =>
    cases second.total? with
    | none => rfl
    | some other => exact counts_add? r other

/-- Every grouping comes to the sum of its reports, or 64 bits do not hold the sum. -/
theorem Grouping.counts_total? {g : Grouping} (h : ∀ r ∈ g.reports, r.counts.Fits) :
    g.total?.map Report.counts = (Counts.sum (g.reports.map Report.counts)).fitting? := by
  induction g with
  | start name => rfl
  | one r =>
    have hr : r.counts.Fits := h r (List.mem_singleton_self r)
    have hsum : Counts.sum [r.counts] = r.counts := r.counts.add_empty
    rw [reports, List.map_singleton, hsum, Counts.fitting?, if_pos hr]
    rfl
  | both first second ihFirst ihSecond =>
    obtain ⟨hfirst, hsecond⟩ := List.forall_mem_append.mp h
    rw [counts_both, ihFirst hfirst, ihSecond hsecond, reports, List.map_append,
      Counts.sum_append]
    simp only [Counts.fitting?_bind_add?_right]
    exact Counts.fitting?_bind_add? _ _

/-! ## What is printed -/

theorem print_eq (reports : List Report) :
    print reports = (reports ++ totals reports).flatMap printLine := by
  rw [print, totals, total_eq, List.flatMap_append]
  by_cases h : 1 < reports.length
  · rw [if_pos h, if_pos h, List.flatMap_singleton]
  · rw [if_neg h, if_neg h, List.flatMap_nil]

theorem plain_printFigure (figure : Text × Nat) :
    Styled.plain (printFigure figure) = figureText figure.1 figure.2 := by
  simp [printFigure, figureText]

theorem plain_printLine (r : Report) : Styled.plain (printLine r) = r.row ++ ['\n'] := by
  rw [printLine, Styled.plain_append, Styled.plain_append, Styled.plain_flatMap]
  simp [plain_printFigure, figures, row]

theorem feed_not_mem_figureText {label : Text} (h : '\n' ∉ label) (n : Nat) :
    '\n' ∉ figureText label n := by
  have hdigits : '\n' ∉ Text.ofNat n := by
    intro hmem
    cases Text.isDigit_of_mem_ofNat hmem
  simp [figureText, hdigits, h]

/-- The only line feeds in a row are those of the name. -/
theorem feed_mem_row_iff (r : Report) : '\n' ∈ r.row ↔ '\n' ∈ r.name := by
  simp [row, feed_not_mem_figureText]

theorem totals_perm (h : others.Perm reports) : totals others = totals reports := by
  rw [totals, totals, h.length_eq, Counts.sum_perm (h.map Report.counts)]

/-- Adding counts up forgets their order and grouping, also in 64 bits, which hold a sum in
every order and grouping or in none. So the total of several reports has the sums of their
figures and the longest of their longest lines, and the total of two lists is the sum of
theirs. What is printed is one row for each report, in their order, and one for the total if
there are several, which is the same in every order. -/
theorem print_with_totals (reports : List Report) :
    (∀ a b c : Counts, a + b + c = a + (b + c) ∧ a + b = b + a ∧ a + {} = a ∧
      ((a.add? b).bind fun x => x.add? c) = ((b.add? c).bind fun y => a.add? y) ∧
      a.add? b = b.add? a ∧ (a.Fits → a.add? {} = some a)) ∧
    (∀ g : Grouping, g.reports.Perm reports → (∀ r ∈ reports, r.counts.Fits) →
      g.total?.map Report.counts = (Counts.sum (reports.map Report.counts)).fitting?) ∧
    (∀ name others, total name reports = ⟨name, Counts.sum (reports.map Report.counts)⟩ ∧
      total name (reports ++ others) = (total name reports).add (total name others)) ∧
    print reports = (reports ++ totals reports).flatMap printLine ∧
    (∀ r, Styled.plain (printLine r) = r.row ++ ['\n'] ∧ ('\n' ∈ r.row ↔ '\n' ∈ r.name)) ∧
    ∀ others, others.Perm reports →
      (others.map row).Perm (reports.map row) ∧ totals others = totals reports := by
  refine ⟨?_, ?_, ?_, print_eq reports, fun r => ⟨plain_printLine r, feed_mem_row_iff r⟩, ?_⟩
  · intro a b c
    exact ⟨a.add_assoc b c, a.add_comm b, a.add_empty, a.add?_assoc b c, a.add?_comm b,
      Counts.add?_empty⟩
  · intro g hperm hfits
    have hreports : ∀ r ∈ g.reports, r.counts.Fits := fun r hr => hfits r (hperm.subset hr)
    rw [Grouping.counts_total? hreports, Counts.sum_perm (hperm.map Report.counts)]
  · intro name others
    refine ⟨total_eq name reports, ?_⟩
    rw [total_eq, total_eq, total_eq, List.map_append, Counts.sum_append]
    rfl
  · intro others hperm
    exact ⟨hperm.map row, totals_perm hperm⟩

/-- Two reports added up from the second on, behind a name without figures, and printed in
the other order. The longest line is not a sum. -/
theorem print_with_totals_from_second :
    let a : Report := ⟨"total".toList, { lines := 2, longestLine := 7 }⟩
    let b : Report := ⟨"b".toList, { lines := 2 ^ 63, longestLine := 9 }⟩
    let g : Grouping := .both (.both (.start []) (.one b)) (.one a)
    g.reports.Perm [a, b] ∧ (∀ r ∈ [a, b], r.counts.Fits) ∧
    g.total?.map Report.counts = some { lines := 2 ^ 63 + 2, longestLine := 9 } ∧
    totals [b, a] = totals [a, b] := by
  intro a b g
  have hperm : g.reports.Perm [a, b] := .swap a b []
  have hfits : ∀ r ∈ [a, b], r.counts.Fits := by decide
  have hsum : (Counts.sum ([a, b].map Report.counts)).fitting? =
      some { lines := 2 ^ 63 + 2, longestLine := 9 } := by decide
  obtain ⟨-, hgroupings, -, -, -, horder⟩ := print_with_totals [a, b]
  exact ⟨hperm, hfits, (hgroupings g hperm hfits).trans hsum, (horder [b, a] (.swap a b [])).2⟩

end Report

end LexScan
