import LexScan.Proofs.WrappedLines

/-!
# Words in wrapped lines

A word that has room on a line is on one line as a whole. A longer one starts a line and is
cut where a line is full, and only there. And a line that ends in front of a word could not
have held it. All three are said of the places where a word stands in its paragraph, and
follow from how the rows of the paragraph meet. A paragraph that has room on one line is not
broken at all, but it loses the spaces in front of it.
-/

namespace LexScan.Text

/-- A word in the midst of a text: no space is in it, and on either side of it is a space or
an end of the text. -/
structure IsWordBetween (u word v : Text) : Prop where
  ne_nil : word ≠ []
  no_space : ' ' ∉ word
  behind : ∀ c ∈ u.getLast?, c = ' '
  before : ∀ c ∈ v.head?, c = ' '

/-- The word behind a text `u` is on one line. -/
def IsOnOneLine (rows : List Row) (u word : Text) : Prop :=
  ∃ front r back x y, rows = front ++ r :: back ∧ r.line = x ++ word ++ y ∧
    u = front.flatMap Row.text ++ r.gap ++ x

/-- The word behind a text `u` starts a line and is cut into pieces that are full lines and a
last piece, behind which that line may go on. -/
def IsOnOwnLines (width : Nat) (rows : List Row) (u word : Text) : Prop :=
  ∃ front gap pieces last y back,
    rows = front ++ pieceRows gap pieces (last ++ y) ++ back ∧
    u = front.flatMap Row.text ++ gap ∧ IsCut width word pieces last ∧ pieces ≠ []

/-- A line behind which nothing but spaces stands in front of the word behind a text `u` is
too full for it. -/
def HasNoRoom (width : Nat) (rows : List Row) (u word : Text) : Prop :=
  ∀ front r back spaces, rows = front ++ r :: back →
    u = front.flatMap Row.text ++ r.text ++ spaces → (∀ c ∈ spaces, c = ' ') →
    width < r.line.length + 1 + word.length

variable {width : Nat} {a b s t u v word x z gap : Text} {rows front back : List Row}
  {r : Row}

/-! ## Spaces and words -/

/-- Of two fronts of a text the one is longer, or the other starts with it. -/
theorem cases_append_eq_append (h : a ++ s = b ++ t) :
    (∃ more, more ≠ [] ∧ a = b ++ more ∧ more ++ s = t) ∨
      ∃ more, b = a ++ more ∧ s = more ++ t := by
  rcases List.append_eq_append_iff.mp h with hshort | ⟨more, ha, ht⟩
  · exact .inr hshort
  · rcases eq_or_ne more [] with rfl | hmore
    · exact .inr ⟨[], by simpa using ha.symm, ht.symm⟩
    · exact .inl ⟨more, hmore, ha, ht.symm⟩

theorem eq_nil_of_append_eq (hgap : ∀ c ∈ gap, c = ' ') (hne : word ≠ []) (hword : ' ' ∉ word)
    (heq : gap ++ s = word ++ v) : gap = [] := by
  cases gap with
  | nil => rfl
  | cons c gap =>
    obtain ⟨d, word, rfl⟩ := List.exists_cons_of_ne_nil hne
    have hc : c = ' ' := hgap c (List.mem_cons_self ..)
    obtain rfl : c = d := (List.cons.inj heq).1
    exact absurd (hc ▸ List.mem_cons_self ..) hword

/-- What stands behind spaces and does not start with one is told by the text. -/
theorem eq_of_blank_append {gap' : Text} (hgap : ∀ c ∈ gap, c = ' ')
    (hgap' : ∀ c ∈ gap', c = ' ') (ha : a.head? ≠ some ' ') (hb : b.head? ≠ some ' ')
    (heq : gap ++ a = gap' ++ b) : a = b := by
  rw [← dropWhile_blank_append hgap ha, heq, dropWhile_blank_append hgap' hb]

theorem length_firstWord_le_append (s t : Text) :
    (firstWord s).length ≤ (firstWord (s ++ t)).length := by
  unfold firstWord
  rw [List.takeWhile_append]
  split
  · exact (List.takeWhile_prefix _).length_le.trans (by simp)
  · exact le_rfl

theorem IsWordBetween.firstWord_append (h : IsWordBetween u word v) :
    firstWord (word ++ v) = word := by
  cases v with
  | nil => rw [List.append_nil, firstWord_eq_self h.no_space]
  | cons c v =>
    obtain rfl : c = ' ' := h.before c rfl
    rw [firstWord_append_space, firstWord_eq_self h.no_space]

/-! ## Words and rows -/

/-- A row behind which a text goes on without a space is full, and all of it is one word. -/
theorem AreLaid.full_of_eq_append (h : AreLaid width (r :: rows)) (hne : word ≠ [])
    (hword : ' ' ∉ word) (heq : rows.flatMap Row.text = word ++ v) :
    r.line.length = width ∧ ' ' ∉ r.line := by
  cases rows with
  | nil => exact absurd (List.append_eq_nil_iff.mp heq.symm).1 hne
  | cons next rows =>
    have hblank := (h.each next (by simp)).blank
    rw [List.flatMap_cons, Row.text, List.append_assoc] at heq
    cases (List.isChain_cons_cons.mp h.meets).1 with
    | cut _ hfull hspace _ => exact ⟨hfull, hspace⟩
    | parted hgap _ => exact absurd (eq_nil_of_append_eq hblank hne hword heq) hgap

/-- A word that starts a row goes on over full rows to the last of its pieces. -/
theorem AreLaid.exists_pieceRows (h : AreLaid width rows) (hne : word ≠ [])
    (hword : ' ' ∉ word) (heq : rows.flatMap Row.text = word ++ v) :
    ∃ pieces last y back, rows = pieceRows [] pieces (last ++ y) ++ back ∧
      IsCut width word pieces last := by
  induction rows generalizing word with
  | nil => exact absurd (List.append_eq_nil_iff.mp heq.symm).1 hne
  | cons r rows ih =>
    obtain ⟨gap, line⟩ := r
    obtain ⟨hblank, hfits, _⟩ : Row.IsLaid width ⟨gap, line⟩ := h.each _ (List.mem_cons_self ..)
    rw [List.flatMap_cons, Row.text, List.append_assoc] at heq
    obtain rfl : gap = [] := eq_nil_of_append_eq hblank hne hword heq
    change line ++ rows.flatMap Row.text = word ++ v at heq
    rcases cases_append_eq_append heq.symm with ⟨rest, hne', rfl, hrest⟩ | ⟨y, rfl, -⟩
    · have hword' : ' ' ∉ rest := fun hmem => hword (List.mem_append_right _ hmem)
      obtain ⟨hfull, -⟩ := h.full_of_eq_append hne' hword' hrest.symm
      obtain ⟨pieces, last, y, back, rfl, hcut⟩ := ih h.tail hne' hword' hrest.symm
      exact ⟨line :: pieces, last, y, back, rfl, hcut.cons hfull hne'⟩
    · have hshort : word.length ≤ width := (List.prefix_append word y).length_le.trans hfits
      exact ⟨[], word, y, rows, rfl, by simp, by simp, hshort, by simp⟩

/-- A word is found on a row behind what stands in front of it there. -/
theorem exists_row_of_eq_append (hblank : ∀ r ∈ rows, ∀ c ∈ r.gap, c = ' ') (hne : word ≠ [])
    (hword : ' ' ∉ word) (heq : rows.flatMap Row.text = u ++ (word ++ v)) :
    ∃ front r back x z, rows = front ++ r :: back ∧ r.line = x ++ z ∧ z ≠ [] ∧
      u = front.flatMap Row.text ++ r.gap ++ x ∧
      z ++ back.flatMap Row.text = word ++ v := by
  induction rows generalizing u with
  | nil => simp [hne] at heq
  | cons r rows ih =>
    rw [List.forall_mem_cons] at hblank
    rw [List.flatMap_cons] at heq
    rcases cases_append_eq_append heq with ⟨z, hz, hr, hrest⟩ | ⟨u', rfl, hrest⟩
    · -- The word starts in this row, and not within the spaces that are on no line.
      rcases List.append_eq_append_iff.mp hr with ⟨x, rfl, hline⟩ | ⟨gap, hgap, rfl⟩
      · exact ⟨[], r, rows, x, z, rfl, hline, hz, by simp, hrest⟩
      · have hspaces : ∀ c ∈ gap, c = ' ' := fun c hc =>
          hblank.1 c (hgap ▸ List.mem_append_right _ hc)
        rw [List.append_assoc] at hrest
        obtain rfl : gap = [] := eq_nil_of_append_eq hspaces hne hword hrest
        exact ⟨[], r, rows, [], r.line, rfl, rfl, by simpa using hz, by simp [hgap], hrest⟩
    · obtain ⟨front, r', back, x, z, rfl, hline, hz, rfl, hbehind⟩ := ih hblank.2 hrest
      exact ⟨r :: front, r', back, x, z, rfl, hline, hz, by simp, hbehind⟩

/-- A word with room on a line is on one, and a longer one on lines of its own. -/
theorem AreLaid.cases_word (h : AreLaid width rows) (hword : IsWordBetween u word v)
    (heq : rows.flatMap Row.text = u ++ (word ++ v)) :
    word.length ≤ width ∧ IsOnOneLine rows u word ∨
      width < word.length ∧ IsOnOwnLines width rows u word := by
  obtain ⟨front, r, back, x, z, rfl, hline, -, rfl, hrest⟩ :=
    exists_row_of_eq_append (fun r hr => (h.each r hr).blank) hword.ne_nil hword.no_space heq
  obtain ⟨-, hback, -⟩ := areLaid_append_iff.mp h
  have hfits := (hback.each r (List.mem_cons_self ..)).fits
  rcases cases_append_eq_append hrest.symm with ⟨rest, hne, rfl, hbehind⟩ | ⟨y, rfl, -⟩
  · right
    have hspace : ' ' ∉ rest := fun hmem => hword.no_space (List.mem_append_right _ hmem)
    obtain ⟨hfull, hone⟩ := hback.full_of_eq_append hne hspace hbehind.symm
    -- All of the row is one word, so nothing stands on it in front of this one.
    obtain rfl : x = [] := by
      by_contra hx
      have hlast : x.getLast hx = ' ' := hword.behind _ <| by
        rw [List.getLast?_append_of_ne_nil _ hx, List.getLast?_eq_some_getLast hx]
        rfl
      rw [hline] at hone
      exact hone (List.mem_append_left _ (hlast ▸ List.getLast_mem hx))
    obtain rfl : r.line = z := hline
    obtain ⟨pieces, last, y, back, rfl, hcut⟩ :=
      hback.tail.exists_pieceRows hne hspace hbehind.symm
    have hpos := List.length_pos_iff.mpr hne
    refine ⟨by rw [List.length_append]; omega, front, r.gap, r.line :: pieces, last, y, back,
      ?_, by simp, hcut.cons hfull hne, List.cons_ne_nil _ _⟩
    rw [List.append_assoc]
    rfl
  · left
    refine ⟨?_, front, r, back, x, y, rfl, by simp [hline], rfl⟩
    rw [hline] at hfits
    simp at hfits
    omega

/-- The next word behind a line would have made it too long. -/
theorem AreLaid.hasNoRoom (h : AreLaid width rows) (hword : IsWordBetween u word v)
    (heq : rows.flatMap Row.text = u ++ (word ++ v)) : HasNoRoom width rows u word := by
  rintro front r back spaces rfl rfl hspaces
  obtain ⟨-, hback, -⟩ := areLaid_append_iff.mp h
  have hbehind : back.flatMap Row.text = spaces ++ (word ++ v) := by
    simpa using heq
  cases back with
  | nil => simp [hword.ne_nil] at hbehind
  | cons next back =>
    cases (List.isChain_cons_cons.mp hback.meets).1 with
    | cut _ hfull _ _ => omega
    | parted _ hover =>
      have hnext : next.IsLaid width := hback.each next (by simp)
      rcases eq_or_ne next.line [] with hnil | hne
      · rw [hnil] at hover
        simp [firstWord] at hover
        omega
      · have hline : (next.line ++ back.flatMap Row.text).head? ≠ some ' ' := by
          rw [List.head?_append_of_ne_nil _ hne]
          exact hnext.starts
        have hhead : (word ++ v).head? ≠ some ' ' := by
          rw [List.head?_append_of_ne_nil _ hword.ne_nil]
          exact head?_ne_space hword.no_space
        have hstart : next.line ++ back.flatMap Row.text = word ++ v :=
          eq_of_blank_append hnext.blank hspaces hline hhead (by simpa [Row.text] using hbehind)
        have hle := length_firstWord_le_append next.line (back.flatMap Row.text)
        rw [hstart, hword.firstWord_append] at hle
        omega

/-- The lines of a text are those of its paragraphs, and in the lines of a paragraph, which
stand in it with nothing but spaces between them, a word with room on a line is on one line;
a longer word starts a line and is cut into full lines and a rest; and a line that ends in
front of a word has no room for a space and that word. -/
theorem wrap_breaks_at_words (hwidth : 0 < width) (t : Text) :
    wrap width t = (t.splitOn '\n').flatMap (wrap width) ∧
    ∀ paragraph ∈ t.splitOn '\n', ∃ rows : List Row,
      rows.map Row.line = wrap width paragraph ∧ rows.flatMap Row.text = paragraph ∧
      (∀ r ∈ rows, ∀ c ∈ r.gap, c = ' ') ∧
      ∀ u word v, u ++ word ++ v = paragraph → IsWordBetween u word v →
        (word.length ≤ width → IsOnOneLine rows u word) ∧
        (width < word.length → IsOnOwnLines width rows u word) ∧
        HasNoRoom width rows u word := by
  refine ⟨wrap_eq_flatMap width t, fun paragraph hparagraph => ?_⟩
  obtain ⟨rows, hlines, rfl, hlaid⟩ := exists_rows hwidth paragraph
  refine ⟨rows, ?_, rfl, fun r hr => (hlaid.each r hr).blank, ?_⟩
  · rw [wrap_of_not_mem (not_mem_of_mem_splitOn hparagraph), Nat.max_eq_left hwidth, hlines]
  · intro u word v heq hword
    rw [List.append_assoc] at heq
    refine ⟨fun hshort => ?_, fun hlong => ?_, hlaid.hasNoRoom hword heq.symm⟩
    · rcases hlaid.cases_word hword heq.symm with ⟨-, hone⟩ | ⟨hlong, -⟩
      · exact hone
      · omega
    · rcases hlaid.cases_word hword heq.symm with ⟨hshort, -⟩ | ⟨-, hown⟩
      · omega
      · exact hown

/-- A word that fills two lines and a part of the third, on which another one has room, and
behind two spaces one that has none. -/
theorem wrap_breaks_at_words_around_long_one :
    let u : Text := ['a', 'b', ' ']
    let long : Text := ['c', 'd', 'e', 'f', 'g', 'h', 'i']
    let v : Text := [' ', 'j', ' ', ' ']
    let last : Text := ['k', 'l', 'm']
    let t := u ++ long ++ v ++ last
    wrap 3 t = [['a', 'b'], ['c', 'd', 'e'], ['f', 'g', 'h'], ['i', ' ', 'j'], last] ∧
    ∃ rows : List Row, rows.map Row.line = wrap 3 t ∧
      IsOnOneLine rows [] ['a', 'b'] ∧ IsOnOwnLines 3 rows u long ∧
      IsOnOneLine rows (u ++ long ++ v) last ∧ HasNoRoom 3 rows (u ++ long ++ v) last := by
  intro u long v last t
  have hthree : 0 < 3 := by decide
  obtain ⟨rows, hlines, -, -, hwords⟩ := (wrap_breaks_at_words hthree t).2 t (by decide)
  have hfirst : IsWordBetween [] ['a', 'b'] (' ' :: (long ++ v ++ last)) :=
    ⟨by decide, by decide, by simp, by simp⟩
  have hlong : IsWordBetween u long (v ++ last) :=
    ⟨by decide, by decide, by simp [u], by simp [v]⟩
  have hlast : IsWordBetween (u ++ long ++ v) last [] :=
    ⟨by decide, by decide, by simp [v], by simp⟩
  refine ⟨by decide, rows, hlines, ?_, ?_, ?_⟩
  · exact (hwords _ _ _ (by decide) hfirst).1 (by decide)
  · exact (hwords _ _ _ (by decide) hlong).2.1 (by decide)
  · obtain ⟨hone, -, hroom⟩ := hwords _ _ _ (by decide) hlast
    exact ⟨hone (by decide), hroom⟩

/-! ## Paragraphs that fit -/

/-- A paragraph that has room on a line is one line of its text, between those of the
paragraphs before and behind it: the paragraph without the spaces in front of it, which is
the paragraph itself exactly if it does not start with a space. -/
theorem wrap_fitting_paragraph {paragraph : Text} {before behind : List Text}
    (hwidth : 0 < width) (hsplit : t.splitOn '\n' = before ++ paragraph :: behind)
    (hfits : paragraph.length ≤ width) :
    wrap width t =
      before.flatMap (wrap width) ++ wrap width paragraph ++ behind.flatMap (wrap width) ∧
    wrap width paragraph = [paragraph.dropWhile (· = ' ')] ∧
    (wrap width paragraph = [paragraph] ↔ paragraph.head? ≠ some ' ') := by
  have hmem : paragraph ∈ t.splitOn '\n' := by simp [hsplit]
  have hfeed := not_mem_of_mem_splitOn hmem
  have hline : wrap width paragraph = [paragraph.dropWhile (· = ' ')] := by
    rw [wrap_of_not_mem hfeed, Nat.max_eq_left hwidth, wrapParagraph_eq_dropWhile hwidth hfits]
  refine ⟨?_, hline, ?_, ?_⟩
  · rw [wrap_eq_flatMap, hsplit, List.flatMap_append, List.flatMap_cons, List.append_assoc]
  · intro hself
    exact (bounds_of_mem_wrap (hself ▸ List.mem_singleton_self paragraph)).2.2
  · intro hstart
    rw [wrap_of_not_mem hfeed, Nat.max_eq_left hwidth,
      wrapParagraph_of_length_le hwidth hfits hstart]

/-- Repeated spaces and those at the end stay, between a paragraph that is broken and one that
starts with a space. -/
theorem wrap_fitting_paragraph_with_spaces :
    let t : Text := ['a', ' ', 'b', 'c', 'd', 'e', '\n', 'f', ' ', ' ', 'g', ' ', '\n', ' ', 'h']
    t.splitOn '\n' =
      [['a', ' ', 'b', 'c', 'd', 'e']] ++ ['f', ' ', ' ', 'g', ' '] :: [[' ', 'h']] ∧
    wrap 5 t = [['a'], ['b', 'c', 'd', 'e'], ['f', ' ', ' ', 'g', ' '], ['h']] := by
  intro t
  have hsplit : t.splitOn '\n' =
      [['a', ' ', 'b', 'c', 'd', 'e']] ++ ['f', ' ', ' ', 'g', ' '] :: [[' ', 'h']] := by decide
  have hfive : 0 < 5 := by decide
  obtain ⟨hwrap, -, hself⟩ := wrap_fitting_paragraph hfive hsplit (by decide)
  refine ⟨hsplit, ?_⟩
  rw [hwrap, hself.mpr (by decide)]
  decide

/-- A paragraph of two characters does not become the same line of two characters if the first
of them is a space. -/
theorem wrap_drops_indentation :
    [' ', 'x'] ∈ Text.splitOn '\n' [' ', 'x'] ∧ [' ', 'x'].length ≤ 80 ∧
    [' ', 'x'] ∉ wrap 80 [' ', 'x'] ∧ wrap 80 [' ', 'x'] = [['x']] := by
  decide

end LexScan.Text
