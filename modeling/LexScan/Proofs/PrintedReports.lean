import LexScan.Proofs.Totals

/-!
# Reading printed reports

Names are printed as they are, so a row can hold colons, figures and labels before its own.
But its figures are at its end, with a label each that is known: read backwards, a row says
which digits are a figure, and what is left in front of the last colon is the name. A row has
no line feed that its name does not have, so the lines of a printed text are its rows. More
than one of them means that the last one is a total.
-/

namespace LexScan

namespace Report

/-- What a text has behind a piece that it starts with. -/
def behind? (piece t : Text) : Option Text :=
  if piece.isPrefixOf t then some (t.drop piece.length) else none

/-- The figure at the end of a row, with what is in front of it. The row is read backwards,
its last character first. -/
def figure? (label backwards : Text) : Option (Nat × Text) := do
  let figure ← behind? (label.reverse ++ [' ']) backwards
  let digits := (figure.takeWhile Char.isDigit).reverse
  let rest ← behind? [' '] (figure.dropWhile Char.isDigit)
  if digits = [] then none else some (Nat.ofDigitChars 10 digits 0, rest)

/-- The report that a line is the row of. -/
def row? (line : Text) : Option Report := do
  let (longestLine, t) ← figure? "longest".toList line.reverse
  let (symbols, t) ← figure? "symbols".toList t
  let (comments, t) ← figure? "comments".toList t
  let (strings, t) ← figure? "strings".toList t
  let (numbers, t) ← figure? "numbers".toList t
  let (words, t) ← figure? "words".toList t
  let (blankLines, t) ← figure? "blank".toList t
  let (lines, t) ← figure? "lines".toList t
  let name ← behind? [':'] t
  some ⟨name.reverse,
    { lines, blankLines, words, numbers, strings, comments, symbols, longestLine }⟩

/-- The lines of a text that each end with a line feed. -/
def printedLines (t : Text) : List Text := (t.splitOn '\n').dropLast

/-- The reports that a printed text shows. Of several lines, the last one is their total. -/
def readPrinted? (t : Text) : Option (List Report) := do
  let rows ← (printedLines t).mapM row?
  some (if 1 < rows.length then rows.dropLast else rows)

variable {reports : List Report}

/-! ## A row -/

theorem behind?_append (piece t : Text) : behind? piece (piece ++ t) = some t := by
  rw [behind?, if_pos (List.isPrefixOf_iff_prefix.mpr (List.prefix_append _ _)), List.drop_left]

theorem figure?_append (label : Text) (n : Nat) (t : Text) :
    figure? label ((figureText label n).reverse ++ t) = some (n, t) := by
  have hdigits : ∀ c ∈ (Text.ofNat n).reverse, c.isDigit = true := by
    intro c hc
    exact Text.isDigit_of_mem_ofNat (List.mem_reverse.mp hc)
  have hbackwards : (figureText label n).reverse ++ t =
      (label.reverse ++ [' ']) ++ ((Text.ofNat n).reverse ++ ([' '] ++ t)) := by
    simp [figureText]
  have htake : ((Text.ofNat n).reverse ++ ([' '] ++ t)).takeWhile Char.isDigit =
      (Text.ofNat n).reverse := by
    rw [List.takeWhile_append_of_pos hdigits]
    exact List.append_nil _
  have hdrop : ((Text.ofNat n).reverse ++ ([' '] ++ t)).dropWhile Char.isDigit = [' '] ++ t :=
    List.dropWhile_append_of_pos hdigits
  rw [figure?, hbackwards, behind?_append]
  simp only [Option.bind_eq_bind, Option.bind_some, htake, hdrop, behind?_append,
    List.reverse_reverse, if_neg (Text.ofNat_ne_nil n), Text.ofDigitChars_ofNat]

theorem reverse_row (r : Report) : r.row.reverse = 
    (figureText "longest".toList r.counts.longestLine).reverse ++
    ((figureText "symbols".toList r.counts.symbols).reverse ++
    ((figureText "comments".toList r.counts.comments).reverse ++
    ((figureText "strings".toList r.counts.strings).reverse ++
    ((figureText "numbers".toList r.counts.numbers).reverse ++
    ((figureText "words".toList r.counts.words).reverse ++
    ((figureText "blank".toList r.counts.blankLines).reverse ++
    ((figureText "lines".toList r.counts.lines).reverse ++ ([':'] ++ r.name.reverse)))))))) := by
  simp only [row, List.reverse_append, List.append_assoc, List.reverse_singleton]

/-- A row says which report it is of, whatever the name. -/
theorem row?_row (r : Report) : row? r.row = some r := by
  rw [row?, reverse_row]
  simp only [figure?_append, Option.bind_eq_bind, Option.bind_some, behind?_append]
  rw [List.reverse_reverse]

/-! ## All rows -/

theorem printedLines_flatMap {rows : List Text} (h : ∀ line ∈ rows, '\n' ∉ line) :
    printedLines (rows.flatMap (· ++ ['\n'])) = rows := by
  have hrows : ∀ line ∈ rows ++ [[]], '\n' ∉ line :=
    List.forall_mem_append.mpr ⟨h, by simp⟩
  have hjoin : Text.join ['\n'] (rows ++ [[]]) = rows.flatMap (· ++ ['\n']) := by
    rw [Text.join_append_cons, Text.join, List.append_nil]
  rw [printedLines, ← hjoin, Text.splitOn_join hrows (by simp), List.dropLast_concat]

theorem plain_print (reports : List Report) : Styled.plain (print reports) =
    ((reports ++ totals reports).map row).flatMap (· ++ ['\n']) := by
  rw [print_eq, Styled.plain_flatMap, List.flatMap_map]
  exact List.flatMap_congr fun r _ => plain_printLine r

theorem name_of_mem_totals {r : Report} (h : r ∈ totals reports) : r.name = totalName := by
  rw [totals] at h
  split at h
  · obtain rfl := List.mem_singleton.mp h
    rfl
  · cases h

/-- If no name has a line feed, the lines of what is printed are its rows. -/
theorem printedLines_print (h : ∀ r ∈ reports, '\n' ∉ r.name) :
    printedLines (Styled.plain (print reports)) = (reports ++ totals reports).map row := by
  rw [plain_print]
  apply printedLines_flatMap
  intro line hline
  obtain ⟨r, hr, rfl⟩ := List.mem_map.mp hline
  rw [feed_mem_row_iff]
  rcases List.mem_append.mp hr with hreport | htotal
  · exact h r hreport
  · rw [name_of_mem_totals htotal]
    decide

theorem mapM_row? (reports : List Report) : (reports.map row).mapM row? = some reports := by
  induction reports with
  | nil => rfl
  | cons r reports ih =>
    rw [List.map_cons, List.mapM_cons, row?_row, ih]
    rfl

theorem one_lt_length_append_totals (reports : List Report) :
    1 < (reports ++ totals reports).length ↔ 1 < reports.length := by
  rw [totals, List.length_append]
  split
  · next h => exact iff_of_true (by omega) h
  · rfl

theorem readPrinted?_print (h : ∀ r ∈ reports, '\n' ∉ r.name) :
    readPrinted? (Styled.plain (print reports)) = some reports := by
  rw [readPrinted?, printedLines_print h, mapM_row?]
  change some (if 1 < (reports ++ totals reports).length then
    (reports ++ totals reports).dropLast else reports ++ totals reports) = some reports
  simp only [one_lt_length_append_totals]
  rw [totals]
  split
  · rw [List.dropLast_concat]
  · rw [List.append_nil]

/-- What is printed can be read back, whatever the names hold but line feeds: every line reads
as its report, more than one line means that the last one is the total of the others, and
different lists of reports do not print the same. -/
theorem print_determines_reports (reports : List Report)
    (hnames : ∀ r ∈ reports, '\n' ∉ r.name) :
    let text := Styled.plain (print reports)
    text = (printedLines text).flatMap (· ++ ['\n']) ∧
    (printedLines text).mapM row? = some (reports ++ totals reports) ∧
    totals reports = (if 1 < (printedLines text).length then
      [total totalName reports] else []) ∧
    readPrinted? text = some reports ∧
    ∀ others, (∀ r ∈ others, '\n' ∉ r.name) → Styled.plain (print others) = text →
      others = reports := by
  intro text
  have hlines : printedLines text = (reports ++ totals reports).map row :=
    printedLines_print hnames
  refine ⟨?_, ?_, ?_, readPrinted?_print hnames, ?_⟩
  · rw [hlines]
    exact plain_print reports
  · rw [hlines]
    exact mapM_row? _
  · simp only [hlines, List.length_map, one_lt_length_append_totals]
    rw [totals, total_eq]
  · intro others hothers hsame
    have hread := readPrinted?_print hothers
    rw [hsame, readPrinted?_print hnames] at hread
    exact (Option.some.inj hread).symm

/-- Names that look like rows and like the total. -/
theorem print_determines_reports_of_lookalikes :
    let first : Report := ⟨"total".toList, { lines := 12 }⟩
    let second : Report := ⟨"a: 1 lines 7 longest".toList, { longestLine := 10 }⟩
    let text := "total: 12 lines 0 blank 0 words 0 numbers 0 strings 0 comments ".toList
      ++ "0 symbols 0 longest\na: 1 lines 7 longest: 0 lines 0 blank 0 words ".toList
      ++ "0 numbers 0 strings 0 comments 0 symbols 10 longest\ntotal: 12 lines ".toList
      ++ "0 blank 0 words 0 numbers 0 strings 0 comments 0 symbols 10 longest\n".toList
    (∀ r ∈ [first, second], '\n' ∉ r.name) ∧ Styled.plain (print [first, second]) = text ∧
    readPrinted? text = some [first, second] ∧ Styled.plain (print [second, first]) ≠ text := by
  intro first second text
  have hnames : ∀ r ∈ [first, second], '\n' ∉ r.name := by decide
  have hothers : ∀ r ∈ [second, first], '\n' ∉ r.name := by decide
  have htext : Styled.plain (print [first, second]) = text := by decide +kernel
  obtain ⟨-, -, -, hread, honly⟩ := print_determines_reports [first, second] hnames
  rw [htext] at hread honly
  refine ⟨hnames, htext, hread, fun hsame => ?_⟩
  exact absurd (honly [second, first] hothers hsame) (by decide)

end Report

end LexScan
