import LexScan.Proofs.TokenRule
import LexScan.Token

/-!
# The segments of a line

A line falls, from left to right, into longest runs of white space and tokens, where
each token is made by the first rule that applies at its place. `Segments` says this of
a line and its pieces. Every line falls into segments in exactly one way, and the tokens
among these are the ones that the scan of the line gives. There are none on a line of
white space only, and at most one for each other character.
-/

namespace LexScan

/-- A piece of a line. -/
inductive Segment where
  | blank (run : Text)
  | token (kind : TokenKind) (piece : Text)

namespace Segment

def text : Segment → Text
  | blank run => run
  | token _ piece => piece

def kind? : Segment → Option TokenKind
  | blank _ => none
  | token kind _ => some kind

end Segment

namespace Token

open CharClass (isWhiteSpace)

/-- A line and its segments. -/
inductive Segments : Text → List Segment → Prop where
  | done : Segments [] []
  | blank {run rest : Text} {more : List Segment} (hne : run ≠ [])
      (hrun : ∀ c ∈ run, isWhiteSpace c = true)
      (hend : ∀ c ∈ rest.head?, isWhiteSpace c = false) (hmore : Segments rest more) :
      Segments (run ++ rest) (.blank run :: more)
  | token {kind : TokenKind} {piece rest : Text} {more : List Segment}
      (hplace : ∀ c ∈ (piece ++ rest).head?, isWhiteSpace c = false)
      (hfirst : IsFirst kind piece rest) (hmore : Segments rest more) :
      Segments (piece ++ rest) (.token kind piece :: more)

/-- The kinds of the tokens among segments. -/
def kinds (segments : List Segment) : List TokenKind := segments.filterMap Segment.kind?

/-- A line that is not empty starts with all the white space that is there, or with no
white space but a token. -/
theorem Segments.cases_first {t : Text} {segments : List Segment} (h : Segments t segments) :
    (t = [] ∧ segments = []) ∨
      (∃ rest more, t.takeWhile isWhiteSpace ≠ [] ∧ t = t.takeWhile isWhiteSpace ++ rest ∧
        segments = .blank (t.takeWhile isWhiteSpace) :: more ∧ Segments rest more) ∨
      ∃ kind piece rest more, t.takeWhile isWhiteSpace = [] ∧ t = piece ++ rest ∧
        segments = .token kind piece :: more ∧ IsFirst kind piece rest ∧
        Segments rest more := by
  cases h with
  | done => exact .inl ⟨rfl, rfl⟩
  | @blank run rest more hne hrun hend hmore =>
    have htake := takeWhile_append_of_end hrun hend
    refine .inr (.inl ⟨rest, more, ?_⟩)
    rw [htake]
    exact ⟨hne, rfl, rfl, hmore⟩
  | @token kind piece rest more hplace hfirst hmore =>
    have htake := takeWhile_eq_nil_iff_head.mpr hplace
    exact .inr (.inr ⟨kind, piece, rest, more, htake, rfl, rfl, hfirst, hmore⟩)

theorem Segments.unique {t : Text} {segments others : List Segment} (h : Segments t segments)
    (hothers : Segments t others) : segments = others := by
  induction h generalizing others with
  | done =>
    rcases hothers.cases_first with ⟨_, rfl⟩ | ⟨_, _, hne, _⟩ | ⟨_, piece, _, _, _, ht, _, hf, _⟩
    · rfl
    · exact absurd rfl hne
    · exact absurd (List.append_eq_nil_iff.mp ht.symm).1 hf.1.ne_nil
  | @blank run rest more hne hrun hend hmore ih =>
    have htake := takeWhile_append_of_end hrun hend
    rcases hothers.cases_first with ⟨hnil, _⟩ | ⟨rest', more', _, ht, rfl, hmore'⟩ |
      ⟨_, _, _, _, hnone, _⟩
    · exact absurd (List.append_eq_nil_iff.mp hnil).1 hne
    · rw [htake] at ht ⊢
      obtain rfl := List.append_cancel_left ht
      rw [ih hmore']
    · exact absurd (htake.symm.trans hnone) hne
  | @token kind piece rest more hplace hfirst hmore ih =>
    have htake := takeWhile_eq_nil_iff_head.mpr hplace
    rcases hothers.cases_first with ⟨hnil, _⟩ | ⟨_, _, hblank, _⟩ |
      ⟨kind', piece', rest', more', _, ht, rfl, hfirst', hmore'⟩
    · exact absurd (List.append_eq_nil_iff.mp hnil).1 hfirst.1.ne_nil
    · exact absurd htake hblank
    · obtain ⟨rfl, rfl, rfl⟩ := hfirst.unique hfirst' ht
      rw [ih hmore']

/-- Every line falls into segments. -/
theorem exists_segments {mode : LineBreakMode} {t : Text} (hfree : mode.BreakFree t) :
    ∃ segments, Segments t segments := by
  induction hn : t.length using Nat.strongRecOn generalizing t with
  | ind n ih =>
    -- Whatever the first segment is, something is taken, and the rest ends no line either.
    have hrest : ∀ {piece rest : Text}, t = piece ++ rest → piece ≠ [] →
        ∃ segments, Segments rest segments := by
      intro piece rest ht hne
      have hpiece := List.length_pos_iff.mpr hne
      have hless : rest.length < n := by
        rw [← hn, ht, List.length_append]
        omega
      exact ih _ hless (fun c hc => hfree c (ht ▸ List.mem_append_right piece hc)) rfl
    by_cases hnil : t = []
    · exact ⟨[], hnil ▸ .done⟩
    by_cases hblank : t.takeWhile isWhiteSpace = []
    · obtain ⟨kind, piece, rest, ht, hne, hfirst, _⟩ := exists_isFirst hfree hnil
      obtain ⟨more, hmore⟩ := hrest ht hne
      have hplace : ∀ c ∈ (piece ++ rest).head?, isWhiteSpace c = false := by
        rw [← ht]
        exact takeWhile_eq_nil_iff_head.mp hblank
      rw [ht]
      exact ⟨_, .token hplace hfirst hmore⟩
    · have ht : t = t.takeWhile isWhiteSpace ++ t.dropWhile isWhiteSpace :=
        List.takeWhile_append_dropWhile.symm
      obtain ⟨more, hmore⟩ := hrest ht hblank
      have hrun := List.all_eq_true.mp (List.all_takeWhile (l := t) (p := isWhiteSpace))
      rw [ht]
      exact ⟨_, .blank hblank hrun head?_dropWhile_eq_false hmore⟩

theorem Segments.flatten {t : Text} {segments : List Segment} (h : Segments t segments) :
    (segments.map Segment.text).flatten = t := by
  induction h with
  | done => rfl
  | blank _ _ _ _ ih => rw [List.map_cons, List.flatten_cons, ih, Segment.text]
  | token _ _ _ ih => rw [List.map_cons, List.flatten_cons, ih, Segment.text]

/-! ## How many tokens there are -/

/-- A token starts with a character that is not white space. -/
theorem countP_token_pos {kind : TokenKind} {piece rest : Text}
    (hplace : ∀ c ∈ (piece ++ rest).head?, isWhiteSpace c = false)
    (hfirst : IsFirst kind piece rest) : 0 < piece.countP (!isWhiteSpace ·) := by
  obtain ⟨c, more, rfl⟩ := List.exists_cons_of_ne_nil hfirst.1.ne_nil
  have hc := hplace c rfl
  rw [List.countP_cons_of_pos (by simp [hc])]
  omega

/-- There are no more tokens on a line than characters that are not white space. -/
theorem Segments.length_kinds_le {t : Text} {segments : List Segment}
    (h : Segments t segments) : (kinds segments).length ≤ t.countP (!isWhiteSpace ·) := by
  induction h with
  | done => exact Nat.le_refl 0
  | @blank run rest more _ _ _ _ ih =>
    rw [List.countP_append]
    exact Nat.le_trans ih (Nat.le_add_left _ _)
  | @token kind piece rest more hplace hfirst _ ih =>
    have hpos := countP_token_pos hplace hfirst
    have hkinds : kinds (.token kind piece :: more) = kind :: kinds more := rfl
    rw [hkinds, List.length_cons, List.countP_append]
    omega

/-- There are no tokens exactly on the lines of white space only. -/
theorem Segments.kinds_eq_nil_iff {t : Text} {segments : List Segment}
    (h : Segments t segments) : kinds segments = [] ↔ t.all isWhiteSpace = true := by
  induction h with
  | done => exact ⟨fun _ => rfl, fun _ => rfl⟩
  | @blank run rest more _ hrun _ _ ih =>
    rw [List.all_append, List.all_eq_true.mpr hrun, Bool.true_and]
    exact ih
  | @token kind piece rest more hplace hfirst _ _ =>
    have hpos := countP_token_pos hplace hfirst
    constructor
    · intro hnone
      cases hnone
    · intro hall
      obtain ⟨c, hc, hnot⟩ := List.countP_pos_iff.mp hpos
      have := List.all_eq_true.mp hall c (List.mem_append_left rest hc)
      simp [this] at hnot

/-- A comment is the last token of its line. -/
theorem Segments.count_comment_le {t : Text} {segments : List Segment}
    (h : Segments t segments) : (kinds segments).count .comment ≤ 1 := by
  induction h with
  | done => exact Nat.zero_le 1
  | blank _ _ _ _ ih => exact ih
  | @token kind piece rest more _ hfirst hmore ih =>
    have hkinds : kinds (.token kind piece :: more) = kind :: kinds more := rfl
    rw [hkinds]
    by_cases hcomment : kind = .comment
    · subst hcomment
      have hrest : rest = [] := by
        cases hfirst.1
        rfl
      subst hrest
      obtain rfl := hmore.unique .done
      exact Nat.le_refl 1
    · rw [List.count_cons_of_ne hcomment]
      exact ih

/-! ## The scan of a line -/

theorem skipBlank_eq_self {c : Cursor} (h : ∀ x ∈ c.remaining.head?, isWhiteSpace x = false) :
    skipBlank c = c := by
  have hrun := takeWhile_eq_nil_iff_head.mpr h
  have hskip : skipBlank c = c.advance (c.remaining.takeWhile isWhiteSpace).length := rfl
  rw [hskip, hrun]
  exact c.advance_zero

theorem value_allFrom_of_isEof {c : Cursor} (h : c.isEof = true) :
    (allFrom c).value = .ok [] := by
  rw [allFrom, if_pos h]
  rfl

theorem value_allFrom_of_next {c after : Cursor} {kind : TokenKind} (h : c.isEof = false)
    (hnext : (next c).value = .ok (kind, after)) :
    (allFrom c).value = (allFrom (skipBlank after)).value.map (kind :: ·) := by
  rw [allFrom, if_neg (by simp [h])]
  simp only [Logged.value_bind]
  split
  · next e he _ =>
    rw [hnext] at he
    cases he
  · next found behind hfound _ =>
    obtain ⟨rfl, rfl⟩ := Prod.mk.inj (Except.ok.inj (hfound.trans hnext))
    rfl

/-- The scan of a line gives the tokens among its segments. -/
theorem Segments.value_allFrom {t : Text} {segments : List Segment} (h : Segments t segments)
    {c : Cursor} (hc : c.remaining = t) (hfree : c.mode.BreakFree t) :
    (allFrom (skipBlank c)).value = .ok (kinds segments) := by
  induction h generalizing c with
  | done =>
    have hskip : skipBlank c = c := skipBlank_eq_self (by rw [hc]; exact fun _ h => by cases h)
    rw [hskip]
    exact value_allFrom_of_isEof (List.isEmpty_iff.mpr hc)
  | @blank run rest more hne hrun hend hmore ih =>
    have hbehind : (c.advance run.length).remaining = rest := by
      rw [Cursor.remaining_advance, hc, List.drop_left]
    have hskip : skipBlank c = c.advance run.length := by
      have htake := takeWhile_append_of_end hrun hend
      rw [← hc] at htake
      exact congrArg (fun piece => c.advance piece.length) htake
    have hagain : skipBlank (c.advance run.length) = c.advance run.length :=
      skipBlank_eq_self (by rw [hbehind]; exact hend)
    rw [hskip, ← hagain]
    exact ih hbehind fun x hx => hfree x (List.mem_append_right run hx)
  | @token kind piece rest more hplace hfirst hmore ih =>
    have hbehind : (c.advance piece.length).remaining = rest := by
      rw [Cursor.remaining_advance, hc, List.drop_left]
    have hskip : skipBlank c = c := skipBlank_eq_self (by rw [hc]; exact hplace)
    have heof : c.isEof = false := by
      rw [Cursor.isEof, hc]
      simp [hfirst.1.ne_nil]
    have hnext : (next c).value = .ok (kind, c.advance piece.length) := by
      rw [value_next, hc, hfirst.leading?_eq hfree]
    have hrest := ih hbehind fun x hx => hfree x (List.mem_append_right piece hx)
    rw [hskip, value_allFrom_of_next heof hnext, hrest]
    rfl

/-- A line has its segments, and the scan ends with the tokens among them. -/
theorem value_all {mode : LineBreakMode} {t : Text} {segments : List Segment}
    (hfree : mode.BreakFree t) (h : Segments t segments) :
    (all (.start mode t)).value = .ok (kinds segments) :=
  h.value_allFrom rfl hfree

end Token

end LexScan
