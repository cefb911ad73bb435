import LexScan.Proofs.Segments
import LexScan.Report
import Mathlib.Data.Nat.Find

/-!
# Strings and comments by counting quotes

How many strings a line has, and whether it has a comment, can be told by counting its
quotes, with no regard to the other tokens. Two slashes are free if the quotes before
them pair up, or if no quote comes after them that could close one. The first free
slashes start the comment, and the quotes before them pair up to strings; one that is
left over is a symbol.

Segment by segment: the pieces in front of a comment hold no free slashes, and what is
free behind such a piece does not depend on it.
-/

namespace LexScan

/-- Two slashes at a place of a line that no string can cover: the number of quotes before
them is even, or there is none after them. -/
def Text.IsFree (t : Text) (i : Nat) : Prop :=
  ['/', '/'] <+: t.drop i ∧ ((t.take i).count '"' % 2 = 0 ∨ '"' ∉ t.drop i)

instance (t : Text) (i : Nat) : Decidable (t.IsFree i) :=
  inferInstanceAs (Decidable (_ ∧ _))

/-- A quote that is a token by itself. -/
def Segment.isQuote : Segment → Bool
  | .token .symbol piece => piece == ['"']
  | _ => false

/-- A slash stands where two of them are free. -/
theorem Text.IsFree.slash {t : Text} {i : Nat} (h : t.IsFree i) : t[i]? = some '/' := by
  obtain ⟨more, hmore⟩ := h.1
  have hhead : (t.drop i).head? = some '/' := by
    rw [← hmore]
    rfl
  rwa [List.head?_drop] at hhead

namespace Token

open CharClass (isWhiteSpace)

/-! ## Pieces without slashes or quotes -/

/-- What all characters of a text have and one character has not keeps it out. -/
theorem not_mem_of_all {p : Char → Bool} {t : Text} {c : Char} (h : ∀ d ∈ t, p d = true)
    (hc : p c = false) : c ∉ t := by
  intro hmem
  have := h c hmem
  rw [hc] at this
  cases this

/-! ## What is free behind a piece -/

/-- A piece in front of the rest of a line that makes no difference to what is free there:
its quotes pair up or no quote comes after them, and no slashes are free within it. -/
structure Passes (piece rest : Text) : Prop where
  paired : piece.count '"' % 2 = 0 ∨ '"' ∉ rest
  none_within : ∀ i < piece.length, ¬ (piece ++ rest).IsFree i

theorem isFree_behind_iff {piece rest : Text}
    (h : piece.count '"' % 2 = 0 ∨ '"' ∉ rest) (i : Nat) :
    (piece ++ rest).IsFree (piece.length + i) ↔ rest.IsFree i := by
  have htake : ((piece ++ rest).take (piece.length + i)).count '"' =
      piece.count '"' + (rest.take i).count '"' := by
    rw [List.take_length_add_append, List.count_append]
  simp only [Text.IsFree, List.drop_length_add_append, htake]
  apply and_congr_right
  intro _
  rcases h with heven | hnone
  · apply or_congr_left
    omega
  · have hbehind : '"' ∉ rest.drop i := fun hmem => hnone (List.mem_of_mem_drop hmem)
    simp only [hbehind, not_false_eq_true, or_true]

theorem Passes.isFree_iff {piece rest : Text} (h : Passes piece rest) (i : Nat) :
    (piece ++ rest).IsFree i ↔ ∃ j, i = piece.length + j ∧ rest.IsFree j := by
  constructor
  · intro hi
    by_cases hwithin : i < piece.length
    · exact absurd hi (h.none_within i hwithin)
    · obtain ⟨j, rfl⟩ : ∃ j, i = piece.length + j := ⟨i - piece.length, by omega⟩
      exact ⟨j, rfl, (isFree_behind_iff h.paired j).mp hi⟩
  · rintro ⟨j, rfl, hj⟩
    exact (isFree_behind_iff h.paired j).mpr hj

theorem passes_of_not_mem {piece : Text} (hquote : '"' ∉ piece) (hslash : '/' ∉ piece)
    (rest : Text) : Passes piece rest := by
  constructor
  · left
    rw [List.count_eq_zero.mpr hquote]
  · intro i hi hfree
    have hat := hfree.slash
    rw [List.getElem?_append_left hi] at hat
    exact hslash (List.mem_of_getElem? hat)

/-- Within a closed string one quote stands before every slash, and one comes after. -/
theorem passes_string {inside : Text} (h : '"' ∉ inside) (rest : Text) :
    Passes ('"' :: (inside ++ ['"'])) rest := by
  have hcount : inside.count '"' = 0 := List.count_eq_zero.mpr h
  constructor
  · left
    simp [hcount]
  · intro i hi hfree
    have hat := hfree.slash
    have hwithin : ∃ j, i = j + 1 ∧ j < inside.length := by
      simp only [List.length_cons, List.length_append, List.length_nil] at hi
      cases i with
      | zero => cases hat
      | succ j =>
        refine ⟨j, rfl, ?_⟩
        by_cases hlast : j = inside.length
        · subst hlast
          simp at hat
        · omega
    obtain ⟨j, rfl, hj⟩ := hwithin
    have hopen : (('"' :: (inside ++ ['"']) ++ rest).take (j + 1)).count '"' = 1 := by
      have hpart : (inside.take j).count '"' = 0 :=
        List.count_eq_zero.mpr fun hmem => h (List.mem_of_mem_take hmem)
      simp [List.take_append, Nat.sub_eq_zero_of_le (Nat.le_of_lt hj), hpart]
    have hclosed : '"' ∈ ('"' :: (inside ++ ['"']) ++ rest).drop (j + 1) := by
      have hzero : j - inside.length = 0 := by omega
      simp [List.drop_append, hzero]
    rcases hfree.2 with heven | hnone
    · omega
    · exact hnone hclosed

/-- No comment and no string starts at a symbol. -/
theorem IsFirst.passes_symbol {c : Char} {rest : Text} (h : IsFirst .symbol [c] rest) :
    Passes [c] rest ∧ (c = '"' → '"' ∉ rest) := by
  have hstring : c = '"' → '"' ∉ rest := by
    rintro rfl hmem
    obtain ⟨inside, behind, rfl, hinside⟩ := List.eq_append_cons_of_mem hmem
    exact h.2 .string _ behind (by decide) (by simp) (.string behind hinside)
  have hcomment : ¬ ['/', '/'] <+: [c] ++ rest := by
    rintro ⟨said, hsaid⟩
    exact h.2 .comment ('/' :: '/' :: said) [] (by decide) (by simpa using hsaid) (.comment said)
  refine ⟨⟨?_, ?_⟩, hstring⟩
  · by_cases hc : c = '"'
    · exact .inr (hstring hc)
    · left
      simp [hc]
  · intro i hi hfree
    obtain rfl : i = 0 := by
      simp only [List.length_singleton] at hi
      omega
    exact hcomment hfree.1

/-- A token other than a comment has two quotes if it is a string, one if it is a quote that
is never closed, and else none. -/
theorem IsFirst.passes {kind : TokenKind} {piece rest : Text} (h : IsFirst kind piece rest)
    (hkind : kind ≠ .comment) :
    Passes piece rest ∧
      piece.count '"' = 2 * (if kind == .string then 1 else 0) +
        (if (Segment.token kind piece).isQuote then 1 else 0) ∧
      ((Segment.token kind piece).isQuote = true → '"' ∉ rest) := by
  have hwritten := h.1
  cases hwritten with
  | comment => exact absurd rfl hkind
  | @string inside _ hinside =>
    have hcount : inside.count '"' = 0 := List.count_eq_zero.mpr hinside
    exact ⟨passes_string hinside rest, by simp [hcount, Segment.isQuote], fun hq => by cases hq⟩
  | number hnumber =>
    have hparts := hnumber.1.isNumberPart
    have hquote : '"' ∉ piece := not_mem_of_all hparts rfl
    have hslash : '/' ∉ piece := not_mem_of_all hparts rfl
    exact ⟨passes_of_not_mem hquote hslash rest, List.count_eq_zero.mpr hquote,
      fun hq => by cases hq⟩
  | @word c behind _ hstart hbehind _ =>
    have hparts : ∀ d ∈ c :: behind, isWordPart d = true := by
      intro d hd
      rcases List.mem_cons.mp hd with rfl | hd
      · exact isWordPart_of_isWordStart hstart
      · exact hbehind d hd
    have hquote : '"' ∉ c :: behind := not_mem_of_all hparts (by decide)
    have hslash : '/' ∉ c :: behind := not_mem_of_all hparts (by decide)
    exact ⟨passes_of_not_mem hquote hslash rest, List.count_eq_zero.mpr hquote,
      fun hq => by cases hq⟩
  | symbol c =>
    obtain ⟨hpasses, hlast⟩ := h.passes_symbol
    refine ⟨hpasses, ?_, ?_⟩
    · by_cases hc : c = '"' <;> simp [Segment.isQuote, hc]
    · intro hquote
      exact hlast (by simpa [Segment.isQuote] using hquote)

/-! ## Counting segment by segment -/

/-- The numbers of comments, of strings and of quotes left over on a line, by the quotes
before its first free slashes. -/
structure Tally (t : Text) (comments strings left : Nat) : Prop where
  of_free : ∀ i, t.IsFree i → (∀ j < i, ¬ t.IsFree j) →
    comments = 1 ∧ (t.take i).count '"' = 2 * strings + left
  of_not_free : (∀ i, ¬ t.IsFree i) → comments = 0 ∧ t.count '"' = 2 * strings + left
  left_le : left ≤ 1

theorem exists_first_free {t : Text} (h : ∃ i, t.IsFree i) :
    ∃ i, t.IsFree i ∧ ∀ j < i, ¬ t.IsFree j := by
  classical
  exact ⟨Nat.find h, Nat.find_spec h, fun j hj => Nat.find_min h hj⟩

/-- Without quotes there are no strings and no quotes left over. -/
theorem Tally.of_no_quote {t : Text} {comments strings left : Nat}
    (h : Tally t comments strings left) (hnone : '"' ∉ t) : strings = 0 ∧ left = 0 := by
  by_cases hfree : ∃ i, t.IsFree i
  · obtain ⟨i, hi, hfirst⟩ := exists_first_free hfree
    have hquotes := (h.of_free i hi hfirst).2
    have hzero : (t.take i).count '"' = 0 :=
      List.count_eq_zero.mpr fun hmem => hnone (List.mem_of_mem_take hmem)
    omega
  · have hquotes := (h.of_not_free fun i hi => hfree ⟨i, hi⟩).2
    have hzero : t.count '"' = 0 := List.count_eq_zero.mpr hnone
    omega

/-- A piece that is no comment adds its quotes: two for each string, or one left over. -/
theorem Tally.behind {piece rest : Text} {comments strings left pairs single : Nat}
    (h : Tally rest comments strings left) (hpasses : Passes piece rest)
    (hcount : piece.count '"' = 2 * pairs + single) (hsingle : left + single ≤ 1) :
    Tally (piece ++ rest) comments (strings + pairs) (left + single) where
  of_free := by
    intro i hi hfirst
    obtain ⟨j, rfl, hj⟩ := (hpasses.isFree_iff i).mp hi
    have hbefore : ∀ k < j, ¬ rest.IsFree k := by
      intro k hk hfree
      exact hfirst (piece.length + k) (by omega) ((hpasses.isFree_iff _).mpr ⟨k, rfl, hfree⟩)
    obtain ⟨hcomments, hquotes⟩ := h.of_free j hj hbefore
    refine ⟨hcomments, ?_⟩
    rw [List.take_length_add_append, List.count_append]
    omega
  of_not_free := by
    intro hnone
    have hrest : ∀ k, ¬ rest.IsFree k := fun k hk =>
      hnone _ ((hpasses.isFree_iff _).mpr ⟨k, rfl, hk⟩)
    obtain ⟨hcomments, hquotes⟩ := h.of_not_free hrest
    refine ⟨hcomments, ?_⟩
    rw [List.count_append]
    omega
  left_le := hsingle

theorem tally_nil : Tally [] 0 0 0 where
  of_free := by
    intro i hi
    have hat := hi.slash
    cases hat
  of_not_free := fun _ => ⟨rfl, rfl⟩
  left_le := Nat.zero_le 1

theorem tally_comment (said : Text) : Tally ('/' :: '/' :: said) 1 0 0 where
  of_free := by
    intro i _ hfirst
    have hstart : Text.IsFree ('/' :: '/' :: said) 0 := ⟨⟨said, rfl⟩, .inl rfl⟩
    obtain rfl : i = 0 := by
      by_cases hpos : 0 < i
      · exact absurd hstart (hfirst 0 hpos)
      · omega
    exact ⟨rfl, rfl⟩
  of_not_free := fun hnone => absurd ⟨⟨said, rfl⟩, .inl rfl⟩ (hnone 0)
  left_le := Nat.zero_le 1

/-- The segments of a line hold as many comments, strings and lone quotes as its quotes
tell. -/
theorem Segments.tally {t : Text} {segments : List Segment} (h : Segments t segments) :
    Tally t ((kinds segments).count .comment) ((kinds segments).count .string)
      (segments.countP Segment.isQuote) := by
  induction h with
  | done => exact tally_nil
  | @blank run rest more _ hrun _ _ ih =>
    have hquote : '"' ∉ run := not_mem_of_all hrun (by decide)
    have hslash : '/' ∉ run := not_mem_of_all hrun (by decide)
    have hcount : run.count '"' = 2 * 0 + 0 := List.count_eq_zero.mpr hquote
    exact ih.behind (passes_of_not_mem hquote hslash rest) hcount ih.left_le
  | @token kind piece rest more _ hfirst hmore ih =>
    have hkinds : kinds (.token kind piece :: more) = kind :: kinds more := rfl
    by_cases hcomment : kind = .comment
    · subst hcomment
      obtain ⟨said⟩ := hfirst.1
      obtain rfl := hmore.unique .done
      rw [List.append_nil]
      exact tally_comment said
    · obtain ⟨hpasses, hcount, hlast⟩ := hfirst.passes hcomment
      rw [hkinds, List.count_cons_of_ne hcomment, List.count_cons, List.countP_cons]
      refine ih.behind hpasses hcount ?_
      by_cases hquote : (Segment.token kind piece).isQuote = true
      · rw [if_pos hquote, (ih.of_no_quote (hlast hquote)).2]
      · rw [if_neg hquote]
        exact ih.left_le

/-- No quote comes after one that is a token by itself. -/
theorem Segments.not_mem_behind_quote {t : Text} {segments : List Segment}
    (h : Segments t segments) : ∀ before after,
      segments = before ++ .token .symbol ['"'] :: after →
      '"' ∉ (after.map Segment.text).flatten := by
  induction h with
  | done =>
    intro before after hsplit
    cases before <;> cases hsplit
  | blank _ _ _ _ ih =>
    intro before after hsplit
    cases before with
    | nil => cases hsplit
    | cons first before => exact ih before after (List.cons.inj hsplit).2
  | token _ hfirst hmore ih =>
    intro before after hsplit
    cases before with
    | nil =>
      obtain ⟨htoken, rfl⟩ := List.cons.inj hsplit
      cases htoken
      rw [hmore.flatten]
      exact hfirst.passes_symbol.2 rfl
    | cons first before => exact ih before after (List.cons.inj hsplit).2

/-- A line has one comment if slashes are free on it and none otherwise. The quotes before
the first free slashes, or all quotes if there are none, give a string for every two of
them; if their number is odd, there is one symbol that is a quote without another quote
behind it, and otherwise there is none. -/
theorem strings_and_comments {mode : LineBreakMode} {t : Text} (hfree : mode.BreakFree t) :
    ∃ segments,
      (∀ others, Segments t others ↔ others = segments) ∧
      (all (.start mode t)).value = .ok (kinds segments) ∧
      (∀ before after, segments = before ++ .token .symbol ['"'] :: after →
        '"' ∉ (after.map Segment.text).flatten) ∧
      let counts := Counts.ofLine (kinds segments) t.length
      (∀ i, t.IsFree i → (∀ j < i, ¬ t.IsFree j) →
        counts.comments = 1 ∧ counts.strings = (t.take i).count '"' / 2 ∧
        segments.countP Segment.isQuote = (t.take i).count '"' % 2) ∧
      ((∀ i, ¬ t.IsFree i) →
        counts.comments = 0 ∧ counts.strings = t.count '"' / 2 ∧
        segments.countP Segment.isQuote = t.count '"' % 2) := by
  obtain ⟨segments, h⟩ := exists_segments hfree
  have htally := h.tally
  have hleft := htally.left_le
  refine ⟨segments, ?_, value_all hfree h, h.not_mem_behind_quote, ?_, ?_⟩
  · intro others
    constructor
    · exact fun hothers => hothers.unique h
    · rintro rfl
      exact h
  · intro i hi hfirst
    obtain ⟨hcomments, hquotes⟩ := htally.of_free i hi hfirst
    refine ⟨hcomments, ?_, by omega⟩
    change (kinds segments).count .string = _
    omega
  · intro hnone
    obtain ⟨hcomments, hquotes⟩ := htally.of_not_free hnone
    refine ⟨hcomments, ?_, by omega⟩
    change (kinds segments).count .string = _
    omega

/-- The slashes in the string are not free; those behind the quote that is never closed
are. -/
theorem strings_and_comments_behind_open_quote :
    let t : Text := ['"', '/', '/', '"', '"', '/', '/']
    LineBreakMode.ascii.BreakFree t ∧ t.IsFree 5 ∧ (∀ j < 5, ¬ t.IsFree j) ∧
    ∃ segments, Segments t segments ∧
      (all (.start .ascii t)).value = .ok (kinds segments) ∧
      (Counts.ofLine (kinds segments) 7).comments = 1 ∧
      (Counts.ofLine (kinds segments) 7).strings = 1 ∧
      segments.countP Segment.isQuote = 1 := by
  intro t
  have hfree : LineBreakMode.ascii.BreakFree t := by
    have hall : t.all (!LineBreakMode.ascii.isBreak ·) = true := by decide
    simpa [LineBreakMode.BreakFree] using hall
  have hat : t.IsFree 5 := by decide
  have hfirst : ∀ j < 5, ¬ t.IsFree j := by decide
  have hquotes : (t.take 5).count '"' = 3 := by decide
  obtain ⟨segments, hsegments, hscan, _, hcounts, _⟩ := strings_and_comments hfree
  have hfound := hcounts 5 hat hfirst
  rw [hquotes] at hfound
  exact ⟨hfree, hat, hfirst, segments, (hsegments segments).mpr rfl, hscan, hfound⟩

end Token

end LexScan
