import LexScan.Text.Wrapped
import Mathlib.Data.List.Chain
import Mathlib.Data.List.TakeWhile

/-!
# Wrapped lines as pieces of their paragraph

The lines that a paragraph is wrapped to stand in it one behind the other, with nothing but
spaces between them. So each line is a row: the spaces that are on no line, and the line
behind them. Where two rows meet, either a word that fills its line is cut, or the line ended
because the next word did not fit on it.

All that is said of wrapped texts follows from these rows: lines keep to the width, nothing
but spaces is lost, and lines that were wrapped once stay as they are.
-/

namespace LexScan.Text

/-- A line of a paragraph, and the spaces in front of it that are on no line. -/
structure Row where
  gap : Text := []
  line : Text
deriving DecidableEq, Repr

def Row.text (r : Row) : Text := r.gap ++ r.line

/-- The word at the start of a text. -/
def firstWord (t : Text) : Text := t.takeWhile (· ≠ ' ')

/-- Only spaces are left out in front of the line, which keeps to the width and does not
start with one. -/
structure Row.IsLaid (width : Nat) (r : Row) : Prop where
  blank : ∀ c ∈ r.gap, c = ' '
  fits : r.line.length ≤ width
  starts : r.line.head? ≠ some ' '

/-- Why a row ends where the next one begins: the line is full and cuts a word, or the word
behind the spaces did not fit on it. -/
inductive Row.Meets (width : Nat) (r next : Row) : Prop where
  | cut (hgap : next.gap = []) (hfull : r.line.length = width) (hword : ' ' ∉ r.line)
      (hmore : next.line ≠ [])
  | parted (hgap : next.gap ≠ [])
      (hover : width < r.line.length + 1 + (firstWord next.line).length)

/-- Rows as they are laid from the start of a paragraph to its end. -/
structure AreLaid (width : Nat) (rows : List Row) : Prop where
  each : ∀ r ∈ rows, r.IsLaid width
  meets : rows.IsChain (Row.Meets width)

/-- A word cut into pieces that are full lines, and what is left of it. -/
structure IsCut (width : Nat) (word : Text) (pieces : List Text) (last : Text) : Prop where
  flatten_append : pieces.flatten ++ last = word
  full : ∀ piece ∈ pieces, piece.length = width
  short : last.length ≤ width
  last_ne_nil : pieces ≠ [] → last ≠ []

/-- The rows of a word on lines of its own. -/
def pieceRows (gap : Text) : List Text → Text → List Row
  | [], last => [⟨gap, last⟩]
  | piece :: pieces, last => ⟨gap, piece⟩ :: pieceRows [] pieces last

/-- The rows of a text that was put on lines. -/
structure Places (width : Nat) (t : Text) (w : Wrapping) (rows : List Row) : Prop where
  lines : rows.map Row.line = w.lines
  text : rows.flatMap Row.text = t
  laid : AreLaid width rows

variable {width : Nat} {t word line last gap : Text} {finished pieces : List Text}
  {w : Wrapping} {rows front : List Row} {r next : Row}

/-! ## A word -/

theorem IsCut.last_ne_nil_of_ne_nil (h : IsCut width word pieces last) (hword : word ≠ []) :
    last ≠ [] := by
  cases pieces with
  | nil => simpa [← h.flatten_append] using hword
  | cons piece pieces => exact h.last_ne_nil (List.cons_ne_nil _ _)

namespace Wrapping

theorem foldl_addChar_of_le (h : w.line.length + word.length ≤ width) :
    word.foldl (addChar width) w = ⟨w.finished, w.line ++ word⟩ := by
  induction word generalizing w with
  | nil => simp
  | cons c word ih =>
    rw [List.length_cons] at h
    have hroom : ¬ width ≤ w.line.length := by omega
    have hadd : addChar width w c = ⟨w.finished, w.line ++ [c]⟩ := by simp [addChar, hroom]
    rw [List.foldl_cons, hadd, ih (by simp; omega), List.append_assoc]
    rfl

/-- The characters of a word that starts on an empty line fill one line after the other. -/
theorem exists_isCut (hwidth : 0 < width) (finished : List Text) (word : Text) :
    ∃ pieces last, word.foldl (addChar width) ⟨finished, []⟩ = ⟨finished ++ pieces, last⟩ ∧
      IsCut width word pieces last := by
  -- The start of the word may be on the line already.
  suffices h : ∀ finished line, line.length ≤ width →
      ∃ pieces last, word.foldl (addChar width) ⟨finished, line⟩ = ⟨finished ++ pieces, last⟩ ∧
        IsCut width (line ++ word) pieces last from h finished [] (Nat.zero_le width)
  induction word with
  | nil =>
    intro finished line hline
    exact ⟨[], line, by simp, by simp, by simp, hline, by simp⟩
  | cons c word ih =>
    intro finished line hline
    rw [List.foldl_cons]
    by_cases hfull : width ≤ line.length
    · have hadd : addChar width ⟨finished, line⟩ c = ⟨finished ++ [line], [c]⟩ := by
        simp [addChar, breakLine, hfull]
      obtain ⟨pieces, last, hfold, hcut⟩ := ih (finished ++ [line]) [c] hwidth
      refine ⟨line :: pieces, last, by rw [hadd, hfold]; simp, ?_, ?_, hcut.short, ?_⟩
      · simpa using hcut.flatten_append
      · exact List.forall_mem_cons.mpr ⟨Nat.le_antisymm hline hfull, hcut.full⟩
      · exact fun _ => hcut.last_ne_nil_of_ne_nil (by simp)
    · have hadd : addChar width ⟨finished, line⟩ c = ⟨finished, line ++ [c]⟩ := by
        simp [addChar, hfull]
      obtain ⟨pieces, last, hfold, hcut⟩ := ih finished (line ++ [c]) (by simp; omega)
      exact ⟨pieces, last, by rw [hadd, hfold], by simpa using hcut⟩

/-- What it can mean to put a word on the lines: it starts the line, or it goes on the line
behind a space, or it starts a new line because it does not fit. -/
theorem addWord_cases (hwidth : 0 < width) (w : Wrapping) (word : Text) :
    (w.line = [] ∧ ∃ pieces last, addWord width w word = ⟨w.finished ++ pieces, last⟩ ∧
      IsCut width word pieces last) ∨
    (w.line ≠ [] ∧ w.line.length + 1 + word.length ≤ width ∧
      addWord width w word = ⟨w.finished, w.line ++ ' ' :: word⟩) ∨
    (w.line ≠ [] ∧ width < w.line.length + 1 + word.length ∧ ∃ pieces last,
      addWord width w word = ⟨w.finished ++ w.line :: pieces, last⟩ ∧
        IsCut width word pieces last) := by
  obtain ⟨finished, line⟩ := w
  by_cases hline : line = []
  · subst hline
    obtain ⟨pieces, last, hfold, hcut⟩ := exists_isCut hwidth finished word
    exact .inl ⟨rfl, pieces, last, by simp [addWord, hfold], hcut⟩
  by_cases hover : width < line.length + 1 + word.length
  · obtain ⟨pieces, last, hfold, hcut⟩ := exists_isCut hwidth (finished ++ [line]) word
    exact .inr (.inr ⟨hline, hover, pieces, last, by simp [addWord, breakLine, hline, hover, hfold],
      hcut⟩)
  · refine .inr (.inl ⟨hline, Nat.le_of_not_lt hover, ?_⟩)
    have hfold := @foldl_addChar_of_le width word ⟨finished, line ++ [' ']⟩ (by simp; omega)
    simpa [addWord, hline, hover] using hfold

end Wrapping

/-! ## Rows -/

theorem firstWord_eq_self (h : ' ' ∉ t) : firstWord t = t := by
  apply List.takeWhile_eq_self_iff.mpr
  intro c hc
  simpa using ne_of_mem_of_not_mem hc h

theorem takeWhile_append_cons {p : Char → Bool} {c : Char} (hc : p c = false) (s t : Text) :
    (s ++ c :: t).takeWhile p = s.takeWhile p := by
  induction s with
  | nil => simp [hc]
  | cons d s ih => cases hd : p d <;> simp [hd, ih]

theorem firstWord_append_space (t rest : Text) : firstWord (t ++ ' ' :: rest) = firstWord t :=
  takeWhile_append_cons (by simp) t rest

theorem head?_ne_space (h : ' ' ∉ t) : t.head? ≠ some ' ' :=
  fun hhead => h (List.mem_of_mem_head? hhead)

theorem map_line_pieceRows (gap : Text) (pieces : List Text) (last : Text) :
    (pieceRows gap pieces last).map Row.line = pieces ++ [last] := by
  induction pieces generalizing gap with
  | nil => rfl
  | cons piece pieces ih => simp [pieceRows, ih]

theorem flatMap_text_pieceRows (gap : Text) (pieces : List Text) (last : Text) :
    (pieceRows gap pieces last).flatMap Row.text = gap ++ (pieces.flatten ++ last) := by
  induction pieces generalizing gap with
  | nil => simp [pieceRows, Row.text]
  | cons piece pieces ih => simp [pieceRows, Row.text, ih]

theorem head?_pieceRows (gap : Text) (pieces : List Text) (last : Text) :
    (pieceRows gap pieces last).head? = some ⟨gap, pieces.headD last⟩ := by
  cases pieces <;> rfl

namespace IsCut

theorem tail {piece : Text} (h : IsCut width word (piece :: pieces) last) :
    IsCut width (pieces.flatten ++ last) pieces last where
  flatten_append := rfl
  full := fun p hp => h.full p (List.mem_cons_of_mem _ hp)
  short := h.short
  last_ne_nil := fun _ => h.last_ne_nil (List.cons_ne_nil _ _)

theorem cons (h : IsCut width word pieces last) (hline : line.length = width)
    (hword : word ≠ []) : IsCut width (line ++ word) (line :: pieces) last where
  flatten_append := by rw [List.flatten_cons, List.append_assoc, h.flatten_append]
  full := List.forall_mem_cons.mpr ⟨hline, h.full⟩
  short := h.short
  last_ne_nil := fun _ => h.last_ne_nil_of_ne_nil hword

/-- The first line is full, or it is all of the word. -/
theorem min_le_length_headD (h : IsCut width word pieces last) :
    min width word.length ≤ (pieces.headD last).length := by
  cases pieces with
  | nil =>
    obtain rfl : last = word := h.flatten_append
    exact Nat.min_le_right _ _
  | cons piece pieces =>
    rw [List.headD_cons, h.full piece (List.mem_cons_self ..)]
    exact Nat.min_le_left _ _

theorem firstWord_headD (h : IsCut width word pieces last) (hword : ' ' ∉ word) :
    firstWord (pieces.headD last) = pieces.headD last := by
  rw [← h.flatten_append] at hword
  apply firstWord_eq_self
  cases pieces with
  | nil => exact hword
  | cons piece pieces => exact fun hmem => hword (by simp at hmem; simp [hmem])

theorem headD_ne_nil (h : IsCut width word pieces last) (hwidth : 0 < width)
    (hword : word ≠ []) : pieces.headD last ≠ [] := by
  have hpos := List.length_pos_iff.mpr hword
  have hmin := h.min_le_length_headD
  exact List.length_pos_iff.mp (by omega)

end IsCut

theorem AreLaid.cons (hr : r.IsLaid width) (h : AreLaid width rows)
    (hmeets : ∀ next ∈ rows.head?, r.Meets width next) : AreLaid width (r :: rows) where
  each := List.forall_mem_cons.mpr ⟨hr, h.each⟩
  meets := List.isChain_cons.mpr ⟨hmeets, h.meets⟩

theorem AreLaid.tail (h : AreLaid width (r :: rows)) : AreLaid width rows where
  each := (List.forall_mem_cons.mp h.each).2
  meets := h.meets.tail

theorem areLaid_append_iff : AreLaid width (front ++ rows) ↔
    AreLaid width front ∧ AreLaid width rows ∧
      ∀ r ∈ front.getLast?, ∀ next ∈ rows.head?, r.Meets width next := by
  constructor
  · rintro ⟨heach, hmeets⟩
    rw [List.forall_mem_append] at heach
    rw [List.isChain_append] at hmeets
    exact ⟨⟨heach.1, hmeets.1⟩, ⟨heach.2, hmeets.2.1⟩, hmeets.2.2⟩
  · rintro ⟨hfront, hrows, hmeets⟩
    exact ⟨List.forall_mem_append.mpr ⟨hfront.each, hrows.each⟩,
      List.isChain_append.mpr ⟨hfront.meets, hrows.meets, hmeets⟩⟩

/-- A word without spaces is cut where its lines are full, and nowhere else. -/
theorem IsCut.areLaid (hwidth : 0 < width) (hgap : ∀ c ∈ gap, c = ' ') (hword : ' ' ∉ word)
    (h : IsCut width word pieces last) : AreLaid width (pieceRows gap pieces last) := by
  induction pieces generalizing gap word with
  | nil =>
    obtain rfl : last = word := h.flatten_append
    have hlast : Row.IsLaid width ⟨gap, last⟩ := ⟨hgap, h.short, head?_ne_space hword⟩
    exact ⟨by simpa [pieceRows] using hlast, .singleton _⟩
  | cons piece pieces ih =>
    have hflat : piece ++ (pieces.flatten ++ last) = word := by
      simpa using h.flatten_append
    rw [← hflat, List.mem_append, not_or] at hword
    have hfull := h.full piece (List.mem_cons_self ..)
    have hlast := h.last_ne_nil (List.cons_ne_nil _ _)
    apply AreLaid.cons ⟨hgap, hfull.le, head?_ne_space hword.1⟩
    · exact ih (by simp) hword.2 h.tail
    · intro next hnext
      rw [head?_pieceRows, Option.mem_some_iff] at hnext
      subst hnext
      exact .cut rfl hfull hword.1 (h.tail.headD_ne_nil hwidth (by simp [hlast]))

/-! ## The rows of a paragraph -/

namespace Places

/-- The last row is the line that is being filled. -/
theorem exists_front (h : Places width t w rows) :
    ∃ front gap, rows = front ++ [⟨gap, w.line⟩] ∧ front.map Row.line = w.finished := by
  obtain ⟨front, lastRow, rfl, hfront, hlast⟩ := List.map_eq_append_iff.mp h.lines
  obtain ⟨r, rfl, hr⟩ := List.map_eq_singleton_iff.mp hlast
  exact ⟨front, r.gap, by rw [← hr], hfront⟩

theorem first (hwidth : 0 < width) (hword : ' ' ∉ word) :
    ∃ rows, Places width word (Wrapping.addWord width {} word) rows := by
  rcases Wrapping.addWord_cases hwidth {} word with
    ⟨-, pieces, last, hadd, hcut⟩ | ⟨hline, -, -⟩ | ⟨hline, -, -⟩
  · refine ⟨pieceRows [] pieces last, ?_, ?_, hcut.areLaid hwidth (by simp) hword⟩
    · rw [map_line_pieceRows, hadd]
      rfl
    · rw [flatMap_text_pieceRows, hcut.flatten_append]
      rfl
  · exact absurd rfl hline
  · exact absurd rfl hline

/-- The next word is put on the lines, with the space in front of it on them or between. -/
theorem addWord (hwidth : 0 < width) (hword : ' ' ∉ word) (h : Places width t w rows) :
    ∃ rows', Places width (t ++ ' ' :: word) (Wrapping.addWord width w word) rows' := by
  obtain ⟨front, gap, rfl, hfront⟩ := h.exists_front
  have htext : front.flatMap Row.text ++ (gap ++ w.line) = t := by simpa [Row.text] using h.text
  obtain ⟨hlaid, hlast, hmeets⟩ := areLaid_append_iff.mp h.laid
  have hrow : Row.IsLaid width ⟨gap, w.line⟩ := hlast.each _ (List.mem_cons_self ..)
  rcases Wrapping.addWord_cases hwidth w word with
    ⟨hline, pieces, last, hadd, hcut⟩ | ⟨hline, hroom, hadd⟩ |
      ⟨hline, hover, pieces, last, hadd, hcut⟩
  · -- The space goes to those left out in front of the line, which is still empty.
    rw [hline] at htext hmeets
    refine ⟨front ++ pieceRows (gap ++ [' ']) pieces last, ?_, ?_, ?_⟩
    · simp [map_line_pieceRows, hadd, hfront, Wrapping.lines]
    · rw [List.flatMap_append, flatMap_text_pieceRows, hcut.flatten_append, ← htext]
      simp
    · have hblank : ∀ c ∈ gap ++ [' '], c = ' ' := by
        simpa [or_imp, forall_and] using hrow.blank
      refine areLaid_append_iff.mpr ⟨hlaid, hcut.areLaid hwidth hblank hword, ?_⟩
      intro r hr next hnext
      rw [head?_pieceRows, Option.mem_some_iff] at hnext
      subst hnext
      cases hmeets r hr _ rfl with
      | cut _ _ _ hmore => exact absurd rfl hmore
      | parted _ hover => exact .parted (by simp) (by simp [firstWord] at hover ⊢; omega)
  · refine ⟨front ++ [⟨gap, w.line ++ ' ' :: word⟩], ?_, ?_, ?_⟩
    · simp [hadd, hfront, Wrapping.lines]
    · rw [← htext]
      simp [Row.text]
    · have hfits : Row.IsLaid width ⟨gap, w.line ++ ' ' :: word⟩ := by
        refine ⟨hrow.blank, by simp; omega, ?_⟩
        rw [List.head?_append_of_ne_nil _ hline]
        exact hrow.starts
      refine areLaid_append_iff.mpr ⟨hlaid, ⟨by simpa using hfits, .singleton _⟩, ?_⟩
      rintro r hr next ⟨⟩
      cases hmeets r hr _ rfl with
      | cut hgap hfull hword _ => exact .cut hgap hfull hword (by simp)
      | parted hgap hover => exact .parted hgap (by rwa [firstWord_append_space])
  · refine ⟨front ++ [⟨gap, w.line⟩] ++ pieceRows [' '] pieces last, ?_, ?_, ?_⟩
    · simp [map_line_pieceRows, hadd, hfront, Wrapping.lines]
    · rw [List.flatMap_append, flatMap_text_pieceRows, hcut.flatten_append, h.text]
      simp
    · refine areLaid_append_iff.mpr ⟨h.laid, hcut.areLaid hwidth (by simp) hword, ?_⟩
      intro r hr next hnext
      rw [List.getLast?_concat, Option.mem_some_iff] at hr
      rw [head?_pieceRows, Option.mem_some_iff] at hnext
      subst hr hnext
      have hmin := hcut.min_le_length_headD
      apply Row.Meets.parted (List.cons_ne_nil _ _)
      rw [hcut.firstWord_headD hword]
      change width < w.line.length + 1 + (pieces.headD last).length
      omega

theorem foldl_addWord {words : List Text} (hwidth : 0 < width) (hwords : ∀ word ∈ words, ' ' ∉ word)
    (h : Places width t w rows) :
    ∃ rows', Places width (t ++ words.flatMap (' ' :: ·))
      (words.foldl (Wrapping.addWord width) w) rows' := by
  induction words generalizing t w rows with
  | nil => exact ⟨rows, by simpa using h⟩
  | cons word words ih =>
    rw [List.forall_mem_cons] at hwords
    obtain ⟨rows', hrows'⟩ := h.addWord hwidth hwords.1
    obtain ⟨rows'', hrows''⟩ := ih hwords.2 hrows'
    exact ⟨rows'', by simpa using hrows''⟩

end Places

/-- The lines of a paragraph are rows that make it up. -/
theorem exists_rows (hwidth : 0 < width) (t : Text) :
    ∃ rows, rows.map Row.line = wrapParagraph width t ∧ rows.flatMap Row.text = t ∧
      AreLaid width rows := by
  obtain ⟨first, words, hwords⟩ := List.exists_cons_of_ne_nil (splitOn_ne_nil ' ' t)
  have hspace : ∀ word ∈ first :: words, ' ' ∉ word := fun word hword =>
    not_mem_of_mem_splitOn (hwords ▸ hword)
  rw [List.forall_mem_cons] at hspace
  have hjoin : first ++ words.flatMap (' ' :: ·) = t := by
    rw [← join_splitOn ' ' t, hwords, join_cons]
    rfl
  obtain ⟨rows, hrows⟩ := Places.first hwidth hspace.1
  obtain ⟨rows', hrows'⟩ := hrows.foldl_addWord hwidth hspace.2
  refine ⟨rows', ?_, hrows'.text.trans hjoin, hrows'.laid⟩
  rw [hrows'.lines, wrapParagraph, hwords, List.foldl_cons]

/-! ## Lines -/

theorem exists_row_of_mem_wrapParagraph (hwidth : 0 < width) (h : line ∈ wrapParagraph width t) :
    ∃ gap, Row.IsLaid width ⟨gap, line⟩ ∧ ∀ c ∈ line, c ∈ t := by
  obtain ⟨rows, hlines, rfl, hlaid⟩ := exists_rows hwidth t
  rw [← hlines, List.mem_map] at h
  obtain ⟨r, hr, rfl⟩ := h
  refine ⟨r.gap, hlaid.each r hr, fun c hc => List.mem_flatMap.mpr ⟨r, hr, ?_⟩⟩
  exact List.mem_append_right _ hc

theorem wrapParagraph_ne_nil (width : Nat) (t : Text) : wrapParagraph width t ≠ [] := by
  simp [wrapParagraph, Wrapping.lines]

theorem filter_flatMap_text (h : ∀ r ∈ rows, r.IsLaid width) :
    (rows.flatMap Row.text).filter (· ≠ ' ') =
      (rows.map Row.line).flatten.filter (· ≠ ' ') := by
  induction rows with
  | nil => rfl
  | cons r rows ih =>
    rw [List.forall_mem_cons] at h
    have hgap : r.gap.filter (· ≠ ' ') = [] := by
      simpa [List.filter_eq_nil_iff] using h.1.blank
    rw [List.flatMap_cons, List.map_cons, List.flatten_cons, List.filter_append,
      List.filter_append, ih h.2, Row.text, List.filter_append, hgap, List.nil_append]

/-- Wrapping loses nothing but spaces. -/
theorem filter_flatten_wrapParagraph (hwidth : 0 < width) (t : Text) :
    (wrapParagraph width t).flatten.filter (· ≠ ' ') = t.filter (· ≠ ' ') := by
  obtain ⟨rows, hlines, rfl, hlaid⟩ := exists_rows hwidth t
  rw [← hlines, filter_flatMap_text hlaid.each]

/-- Two rows are longer than a line. -/
theorem Row.Meets.lt_length (h : r.Meets width next) :
    width < (r.text ++ next.text).length := by
  simp only [Row.text, List.length_append]
  cases h with
  | cut _ hfull _ hmore =>
    have hpos := List.length_pos_iff.mpr hmore
    omega
  | parted hgap hover =>
    have hpos := List.length_pos_iff.mpr hgap
    have hword : (firstWord next.line).length ≤ next.line.length :=
      (List.takeWhile_prefix _).length_le
    omega

theorem dropWhile_blank_append (hgap : ∀ c ∈ gap, c = ' ') (h : t.head? ≠ some ' ') :
    (gap ++ t).dropWhile (· = ' ') = t := by
  rw [List.dropWhile_append_of_pos (by simpa using hgap)]
  cases t with
  | nil => rfl
  | cons c t => simp_all

/-- A paragraph that fits on a line is one line, without the spaces in front of it. -/
theorem wrapParagraph_eq_dropWhile (hwidth : 0 < width) (h : t.length ≤ width) :
    wrapParagraph width t = [t.dropWhile (· = ' ')] := by
  obtain ⟨rows, hlines, rfl, hlaid⟩ := exists_rows hwidth t
  have hne := wrapParagraph_ne_nil width (rows.flatMap Row.text)
  rw [← hlines] at hne ⊢
  match rows with
  | [] => exact absurd rfl hne
  | [r] =>
    have hr := hlaid.each r (List.mem_cons_self ..)
    have hline := dropWhile_blank_append hr.blank hr.starts
    rw [List.flatMap_singleton, Row.text, hline, List.map_singleton]
  | r :: next :: rows =>
    have hmeets := (List.isChain_cons_cons.mp hlaid.meets).1
    have hlt := hmeets.lt_length
    simp only [List.flatMap_cons, List.length_append] at h hlt
    omega

/-- A paragraph that fits on a line and does not start with a space is that line. -/
theorem wrapParagraph_of_length_le (hwidth : 0 < width) (h : t.length ≤ width)
    (hstart : t.head? ≠ some ' ') : wrapParagraph width t = [t] := by
  have hself : ([] ++ t).dropWhile (· = ' ') = t := dropWhile_blank_append (by simp) hstart
  rw [wrapParagraph_eq_dropWhile hwidth h]
  exact congrArg (fun line => [line]) hself

/-! ## Wrapped texts -/

/-- What a text shows wherever its lines end: all but spaces and line feeds. -/
def ink (t : Text) : Text := t.filter fun c => c ≠ ' ' && c ≠ '\n'

theorem ink_append (s t : Text) : (s ++ t).ink = s.ink ++ t.ink := List.filter_append ..

theorem ink_filter (t : Text) : ink (t.filter (· ≠ ' ')) = t.ink := by
  rw [ink, List.filter_filter]
  exact List.filter_congr fun c _ => by by_cases hc : c = ' ' <;> simp [hc]

theorem wrap_of_not_mem (h : '\n' ∉ t) : wrap width t = wrapParagraph (max width 1) t := by
  simp [wrap, splitOn_of_not_mem h]

theorem wrap_eq_flatMap (width : Nat) (t : Text) :
    wrap width t = (t.splitOn '\n').flatMap (wrap width) :=
  List.flatMap_congr fun _ hp => (wrap_of_not_mem (not_mem_of_mem_splitOn hp)).symm

theorem bounds_of_mem_wrap (h : line ∈ wrap width t) :
    line.length ≤ max width 1 ∧ '\n' ∉ line ∧ line.head? ≠ some ' ' := by
  obtain ⟨paragraph, hparagraph, hmem⟩ := List.mem_flatMap.mp h
  obtain ⟨gap, hlaid, hsub⟩ := exists_row_of_mem_wrapParagraph (by omega) hmem
  have hfeed := not_mem_of_mem_splitOn hparagraph
  exact ⟨hlaid.fits, fun hmem => hfeed (hsub _ hmem), hlaid.starts⟩

theorem wrap_ne_nil (width : Nat) (t : Text) : wrap width t ≠ [] := by
  obtain ⟨first, rest, hsplit⟩ := List.exists_cons_of_ne_nil (splitOn_ne_nil '\n' t)
  simp [wrap, hsplit, wrapParagraph_ne_nil]

theorem ink_join {separator : Text} (h : ink separator = []) (pieces : List Text) :
    ink (join separator pieces) = ink pieces.flatten := by
  fun_induction join separator pieces with
  | case1 => rfl
  | case2 piece => rw [List.flatten_singleton]
  | case3 piece pieces _ ih => simp only [List.flatten_cons, ink_append, h, ih, List.append_nil]

/-- The lines of a text show what the text shows. -/
theorem ink_flatten_wrap (width : Nat) (t : Text) : ink (wrap width t).flatten = ink t := by
  have hwidth : 0 < max width 1 := by omega
  have hfeed : ink ['\n'] = [] := rfl
  have hparagraphs : ∀ paragraphs : List Text,
      ink (paragraphs.flatMap (wrapParagraph (max width 1))).flatten = ink paragraphs.flatten := by
    intro paragraphs
    induction paragraphs with
    | nil => rfl
    | cons paragraph paragraphs ih =>
      have hkept := filter_flatten_wrapParagraph hwidth paragraph
      have hfirst : ink (wrapParagraph (max width 1) paragraph).flatten = ink paragraph := by
        rw [← ink_filter, hkept, ink_filter]
      rw [List.flatMap_cons, List.flatten_append, List.flatten_cons, ink_append, ink_append,
        hfirst, ih]
  rw [wrap, hparagraphs, ← ink_join hfeed, join_splitOn]

/-- The lines of a text have no more characters than the width, or one if that is zero,
contain no line feed and start with no space. They are the lines of its paragraphs one after
the other, at least one for each, and lose nothing of a paragraph but spaces. Lines that are
wrapped again stay as they are. -/
theorem wrap_keeps_to_width (width : Nat) (t : Text) :
    (∀ line ∈ wrap width t,
      line.length ≤ max width 1 ∧ '\n' ∉ line ∧ line.head? ≠ some ' ') ∧
    wrap width t = (t.splitOn '\n').flatMap (wrap width) ∧
    (∀ paragraph ∈ t.splitOn '\n', wrap width paragraph ≠ [] ∧
      (wrap width paragraph).flatten.filter (· ≠ ' ') = paragraph.filter (· ≠ ' ')) ∧
    wrap width (join ['\n'] (wrap width t)) = wrap width t := by
  have hwidth : 0 < max width 1 := by omega
  refine ⟨fun line hline => bounds_of_mem_wrap hline, wrap_eq_flatMap width t, ?_, ?_⟩
  · intro paragraph hparagraph
    rw [wrap_of_not_mem (not_mem_of_mem_splitOn hparagraph)]
    exact ⟨wrapParagraph_ne_nil _ _, filter_flatten_wrapParagraph hwidth paragraph⟩
  · have hagain : splitOn '\n' (join ['\n'] (wrap width t)) = wrap width t :=
      splitOn_join (fun line hline => (bounds_of_mem_wrap hline).2.1) (wrap_ne_nil width t)
    calc wrap width (join ['\n'] (wrap width t))
        = (wrap width t).flatMap (wrapParagraph (max width 1)) := by rw [wrap, hagain]
      _ = (wrap width t).flatMap fun line => [line] := List.flatMap_congr fun line hline => by
          obtain ⟨hle, -, hstart⟩ := bounds_of_mem_wrap hline
          exact wrapParagraph_of_length_le hwidth hle hstart
      _ = wrap width t := List.flatMap_singleton' _

end LexScan.Text
