import LexScan.Proofs.FreeSlashes
import Mathlib.Data.List.Basic

/-!
# White space between tokens

White space belongs to no number and no word, and no comment starts with it. So what
stands behind white space has no part in the tokens before it, if these are no comment
and no quote that waits for another one: a line with white space in the middle has the
tokens of both its sides.
-/

namespace LexScan

namespace Unicode

/-- All code points from the first to the last of each stretch. -/
def span (stretches : List Stretch) : List Nat :=
  stretches.flatMap fun s => List.range' s.first (s.last + 1 - s.first)

theorem mem_span_of_holds {stretches : List Stretch} {n : Nat} (h : holds stretches n = true) :
    n ∈ span stretches := by
  induction stretches with
  | nil => cases h
  | cons s rest ih =>
    rw [holds] at h
    split at h
    · cases h
    · next hfirst =>
      rcases Bool.or_eq_true_iff.mp h with hhere | hthere
      · have hlast : n ≤ s.last := by
          rw [Stretch.reaches, Bool.and_eq_true] at hhere
          exact of_decide_eq_true hhere.1
        apply List.mem_append_left
        rw [List.mem_range'_1]
        omega
      · exact List.mem_append_right _ (ih hthere)

end Unicode

namespace Token

open CharClass (isWhiteSpace)

/-! ## White space in a token -/

/-- What holds of all characters in the table holds of white space. -/
theorem of_isWhiteSpace {P : Char → Prop}
    (h : ∀ n ∈ Unicode.span Unicode.whiteSpace, P (Char.ofNat n)) {c : Char}
    (hc : isWhiteSpace c = true) : P c := by
  have hchar := h c.toNat (Unicode.mem_span_of_holds hc)
  rwa [Char.ofNat_toNat] at hchar

theorem isWordPart_of_isWhiteSpace {c : Char} (h : isWhiteSpace c = true) :
    isWordPart c = false :=
  of_isWhiteSpace (P := fun d => isWordPart d = false) (by decide +kernel) h

theorem isNumberPart_of_isWhiteSpace {c : Char} (h : isWhiteSpace c = true) :
    isNumberPart c = false :=
  of_isWhiteSpace (P := fun d => isNumberPart d = false) (by decide +kernel) h

/-- Without white space in it an initial piece of a text ends before white space. -/
theorem isPrefix_before_blank {piece t u : Text} (hpiece : ∀ c ∈ piece, isWhiteSpace c = false)
    (hu : ∀ c ∈ u.head?, isWhiteSpace c = true) (h : piece <+: t ++ u) : piece <+: t := by
  rcases List.prefix_or_prefix_of_prefix h (List.prefix_append t u) with hshort | ⟨v, rfl⟩
  · exact hshort
  · cases v with
    | nil => simp
    | cons c v =>
      obtain ⟨w, rfl⟩ := (List.prefix_append_right_inj t).mp h
      have hc : isWhiteSpace c = true := hu c rfl
      rw [hpiece c (by simp)] at hc
      cases hc

theorem LongestNumber.before_blank {piece rest u : Text} (h : LongestNumber piece rest)
    (hu : ∀ c ∈ u.head?, isWhiteSpace c = true) : LongestNumber piece (rest ++ u) := by
  obtain ⟨hnumber, hlongest⟩ := h
  refine ⟨hnumber, ?_⟩
  intro other hother hbegins
  rw [← List.append_assoc] at hbegins
  have hblank : ∀ c ∈ other, isWhiteSpace c = false := by
    intro c hc
    apply Bool.eq_false_iff.mpr
    intro hwhite
    have hnot := isNumberPart_of_isWhiteSpace hwhite
    rw [hother.isNumberPart c hc] at hnot
    cases hnot
  exact hlongest other hother (isPrefix_before_blank hblank hu hbegins)

/-! ## Rules in front of white space -/

/-- A rule that does not apply to a text does not apply with white space behind it either,
unless the text starts with a quote. -/
theorem read?_before_blank {earlier : TokenKind} {t u : Text} (hne : t ≠ [])
    (hquote : earlier = .string → t.head? ≠ some '"')
    (hu : ∀ c ∈ u.head?, isWhiteSpace c = true) (h : read? earlier t = none) :
    read? earlier (t ++ u) = none := by
  obtain ⟨c, t, rfl⟩ := List.exists_cons_of_ne_nil hne
  cases earlier with
  | comment =>
    have hslashes : ¬ ['/', '/'] <+: c :: t := by
      intro hbegins
      rw [read?, if_pos hbegins] at h
      cases h
    have hblank : ∀ d ∈ ['/', '/'], isWhiteSpace d = false := by
      intro d hd
      obtain rfl : d = '/' := by simpa using hd
      rfl
    exact if_neg fun hbegins => hslashes (isPrefix_before_blank hblank hu hbegins)
  | string => exact leadingString?_of_not_head (t := c :: (t ++ u)) (hquote rfl)
  | number =>
    have hdigit : ¬ c.isDigit = true := by
      intro hdigit
      rw [read?, if_neg (mt leadingDigits_eq_nil_iff.mp (not_not_intro hdigit))] at h
      cases h
    exact if_pos (leadingDigits_eq_nil_iff.mpr hdigit)
  | word =>
    have hstart : ¬ isWordStart c = true := by
      intro hstart
      rw [read?, if_pos hstart] at h
      cases h
    exact if_neg hstart
  | symbol => cases h

/-- What a rule takes is an initial piece. -/
theorem read?_isPrefix {kind : TokenKind} {t piece : Text} (h : read? kind t = some piece) :
    piece <+: t := by
  cases kind with
  | comment =>
    rw [read?] at h
    split at h
    · obtain rfl := Option.some.inj h
      exact List.prefix_refl t
    · cases h
  | string => exact (leadingString?_isPrefix h).2
  | number =>
    rw [read?] at h
    split at h
    · cases h
    · obtain rfl := Option.some.inj h
      exact isPrefix_leadingNumber t
  | word =>
    cases t with
    | nil => cases h
    | cons c t =>
      rw [read?] at h
      split at h
      · obtain rfl := Option.some.inj h
        exact List.cons_prefix_cons.mpr ⟨rfl, List.takeWhile_prefix _⟩
      · cases h
  | symbol =>
    cases t with
    | nil => cases h
    | cons c t =>
      obtain rfl := Option.some.inj h
      exact ⟨t, rfl⟩

/-- Where a token stands no earlier rule applies. -/
theorem IsFirst.read?_eq_none {kind earlier : TokenKind} {piece rest : Text}
    (h : IsFirst kind piece rest) (hlt : rank earlier < rank kind) :
    read? earlier (piece ++ rest) = none := by
  cases hread : read? earlier (piece ++ rest) with
  | none => rfl
  | some other =>
    obtain ⟨behind, ht⟩ := read?_isPrefix hread
    rw [← ht] at hread
    exact absurd (written_iff.mpr hread) (h.2 earlier other behind hlt ht)

/-- A number, a word or a symbol other than a quote starts with no quote. -/
theorem Written.head?_ne_quote {kind : TokenKind} {piece rest : Text}
    (h : Written kind piece rest) (hstring : rank .string < rank kind)
    (hquote : (Segment.token kind piece).isQuote = false) :
    (piece ++ rest).head? ≠ some '"' := by
  rw [List.head?_append_of_ne_nil _ h.ne_nil]
  intro hhead
  obtain ⟨more, rfl⟩ := List.head?_eq_some_iff.mp hhead
  cases h with
  | string => exact absurd hstring (by decide)
  | number hnumber => cases hnumber.1.isNumberPart '"' List.mem_cons_self
  | word hstart => exact absurd hstart (by decide)
  | symbol => cases hquote

/-- A token other than a comment and a lone quote is the same with white space behind what
follows it. -/
theorem IsFirst.before_blank {kind : TokenKind} {piece rest u : Text}
    (h : IsFirst kind piece rest) (hcomment : kind ≠ .comment)
    (hquote : (Segment.token kind piece).isQuote = false)
    (hu : ∀ c ∈ u.head?, isWhiteSpace c = true) : IsFirst kind piece (rest ++ u) := by
  constructor
  · have hwritten := h.1
    cases hwritten with
    | comment => exact absurd rfl hcomment
    | string rest hinside => exact .string _ hinside
    | number hnumber => exact .number (hnumber.before_blank hu)
    | word hstart hmore hend =>
      refine .word hstart hmore ?_
      intro d hd
      by_cases hrest : rest = []
      · rw [hrest, List.nil_append] at hd
        exact isWordPart_of_isWhiteSpace (hu d hd)
      · rw [List.head?_append_of_ne_nil _ hrest] at hd
        exact hend d hd
    | symbol c => exact .symbol c _
  · intro earlier other behind hlt ht hwritten
    have hne : piece ++ rest ≠ [] := List.append_ne_nil_of_left_ne_nil h.1.ne_nil rest
    have hstring : earlier = .string → (piece ++ rest).head? ≠ some '"' := by
      rintro rfl
      exact h.1.head?_ne_quote hlt hquote
    have hnone := read?_before_blank hne hstring hu (h.read?_eq_none hlt)
    rw [List.append_assoc, ← ht, written_iff.mp hwritten] at hnone
    cases hnone

/-! ## Segments on both sides of white space -/

/-- White space in front of a line adds no token. -/
theorem Segments.behind_blank {run t : Text} {segments : List Segment}
    (hrun : ∀ c ∈ run, isWhiteSpace c = true) (h : Segments t segments) :
    ∃ others, Segments (run ++ t) others ∧ kinds others = kinds segments := by
  by_cases hne : run = []
  · subst hne
    exact ⟨segments, h, rfl⟩
  cases h with
  | done => exact ⟨_, .blank hne hrun (fun c hc => by cases hc) .done, rfl⟩
  | @blank run' rest more _ hrun' hend hmore =>
    have hboth : ∀ c ∈ run ++ run', isWhiteSpace c = true := by
      intro c hc
      rcases List.mem_append.mp hc with hc | hc
      · exact hrun c hc
      · exact hrun' c hc
    rw [← List.append_assoc]
    exact ⟨_, .blank (List.append_ne_nil_of_left_ne_nil hne run') hboth hend hmore, rfl⟩
  | token hplace hfirst hmore =>
    exact ⟨_, .blank hne hrun hplace (.token hplace hfirst hmore), rfl⟩

/-- Only tokens on the first side that could reach behind the white space would be others
without it. -/
theorem Segments.append_blank_of_isQuote {x run y : Text} {before after : List Segment}
    (hx : Segments x before) (hcomment : .comment ∉ kinds before)
    (hquote : ∀ segment ∈ before, segment.isQuote = false) (hne : run ≠ [])
    (hrun : ∀ c ∈ run, isWhiteSpace c = true) (hy : Segments y after) :
    ∃ segments, Segments (x ++ (run ++ y)) segments ∧
      kinds segments = kinds before ++ kinds after := by
  have hhead : ∀ c ∈ (run ++ y).head?, isWhiteSpace c = true := by
    intro c hc
    rw [List.head?_append_of_ne_nil _ hne] at hc
    exact hrun c (List.mem_of_head? hc)
  induction hx with
  | done =>
    rw [List.nil_append]
    exact hy.behind_blank hrun
  | @blank blanks rest more _ hblanks _ _ ih =>
    obtain ⟨segments, hsegments, hkinds⟩ :=
      ih hcomment fun segment hmem => hquote segment (List.mem_cons_of_mem _ hmem)
    obtain ⟨others, hothers, hsame⟩ := hsegments.behind_blank hblanks
    rw [List.append_assoc]
    exact ⟨others, hothers, hsame.trans hkinds⟩
  | @token kind piece rest more hplace hfirst _ ih =>
    have hmore : kinds (.token kind piece :: more) = kind :: kinds more := rfl
    rw [hmore, List.mem_cons, not_or] at hcomment
    obtain ⟨segments, hsegments, hkinds⟩ :=
      ih hcomment.2 fun segment hmem => hquote segment (List.mem_cons_of_mem _ hmem)
    have hsame : IsFirst kind piece (rest ++ (run ++ y)) :=
      hfirst.before_blank (Ne.symm hcomment.1) (hquote _ List.mem_cons_self) hhead
    have hplace' : ∀ c ∈ (piece ++ (rest ++ (run ++ y))).head?, isWhiteSpace c = false := by
      rw [List.head?_append_of_ne_nil _ hfirst.1.ne_nil] at hplace ⊢
      exact hplace
    refine ⟨.token kind piece :: segments, ?_, ?_⟩
    · rw [List.append_assoc]
      exact .token hplace' hsame hsegments
    · exact congrArg (kind :: ·) hkinds

/-- Where the quotes pair up and there is no comment, no quote is a token by itself. -/
theorem Segments.isQuote_eq_false {t : Text} {segments : List Segment} (h : Segments t segments)
    (hcomment : .comment ∉ kinds segments) (heven : t.count '"' % 2 = 0) :
    ∀ segment ∈ segments, segment.isQuote = false := by
  have htally := h.tally
  have hleft := htally.left_le
  have hnone : segments.countP Segment.isQuote = 0 := by
    by_cases hfree : ∃ i, t.IsFree i
    · obtain ⟨i, hi, hfirst⟩ := exists_first_free hfree
      have hone := (htally.of_free i hi hfirst).1
      rw [List.count_eq_zero.mpr hcomment] at hone
      cases hone
    · have hquotes := (htally.of_not_free fun i hi => hfree ⟨i, hi⟩).2
      omega
  intro segment hmem
  exact Bool.eq_false_iff.mpr (List.countP_eq_zero.mp hnone segment hmem)

/-- Without two slashes in a row there is no comment. -/
theorem Segments.comment_not_mem {t : Text} {segments : List Segment} (h : Segments t segments)
    (hslashes : ¬ ['/', '/'] <:+: t) : .comment ∉ kinds segments := by
  have hfree : ∀ i, ¬ t.IsFree i := by
    intro i hi
    exact hslashes (hi.1.isInfix.trans (List.drop_suffix i t).isInfix)
  exact List.count_eq_zero.mp (h.tally.of_not_free hfree).1

/-- A line with white space in the middle has the tokens of both its sides, if the first side
has no comment and its quotes pair up. -/
theorem Segments.append_blank {x run y : Text} {before after : List Segment}
    (hx : Segments x before) (hcomment : .comment ∉ kinds before) (heven : x.count '"' % 2 = 0)
    (hne : run ≠ []) (hrun : ∀ c ∈ run, isWhiteSpace c = true) (hy : Segments y after) :
    ∃ segments, Segments (x ++ (run ++ y)) segments ∧
      kinds segments = kinds before ++ kinds after :=
  hx.append_blank_of_isQuote hcomment (hx.isQuote_eq_false hcomment heven) hne hrun hy

/-! ## The scan of the whole line -/

/-- White space separates tokens: the scans of two lines end with their tokens, and if the
first of them has no comment and its quotes pair up, the line with white space between the
two has the tokens of the one and then those of the other. So of each kind it has as many as
both together. -/
theorem all_between_blank {mode : LineBreakMode} {x run y : Text} (hx : mode.BreakFree x)
    (hrun : mode.BreakFree run) (hy : mode.BreakFree y) (hne : run ≠ [])
    (hblank : ∀ c ∈ run, isWhiteSpace c = true) :
    ∃ before after,
      (all (.start mode x)).value = .ok before ∧ (all (.start mode y)).value = .ok after ∧
      let left := Counts.ofLine before x.length
      let right := Counts.ofLine after y.length
      (left.comments = 0 → x.count '"' % 2 = 0 →
        (all (.start mode (x ++ (run ++ y)))).value = .ok (before ++ after) ∧
        let whole := Counts.ofLine (before ++ after) (x ++ (run ++ y)).length
        whole.words = left.words + right.words ∧
        whole.numbers = left.numbers + right.numbers ∧
        whole.strings = left.strings + right.strings ∧
        whole.comments = left.comments + right.comments ∧
        whole.symbols = left.symbols + right.symbols) := by
  obtain ⟨before, hbefore⟩ := exists_segments hx
  obtain ⟨after, hafter⟩ := exists_segments hy
  refine ⟨kinds before, kinds after, value_all hx hbefore, value_all hy hafter, ?_⟩
  intro left right hcomment heven
  have hnone : .comment ∉ kinds before := List.count_eq_zero.mp hcomment
  obtain ⟨segments, hsegments, hkinds⟩ := hbefore.append_blank hnone heven hne hblank hafter
  have hfree : mode.BreakFree (x ++ (run ++ y)) := by
    intro c hc
    rcases List.mem_append.mp hc with hc | hc
    · exact hx c hc
    rcases List.mem_append.mp hc with hc | hc
    · exact hrun c hc
    · exact hy c hc
  have hscan := value_all hfree hsegments
  rw [hkinds] at hscan
  have hcount : ∀ kind, (kinds before ++ kinds after).count kind =
      (kinds before).count kind + (kinds after).count kind := fun kind => List.count_append
  exact ⟨hscan, hcount .word, hcount .number, hcount .string, hcount .comment, hcount .symbol⟩

/-- A slash, a number that breaks off and a closed string stay what they are in front of
white space, although a slash, a digit and an open quote come behind it. -/
theorem all_between_blank_before_lookalikes :
    let x : Text := ['"', '/', '/', '"', '/', '1', '.']
    let run : Text := ['\t', '\u00A0']
    let y : Text := ['/', '5', '"', 'e']
    (all (.start .ascii (x ++ (run ++ y)))).value =
      .ok [.string, .symbol, .number, .symbol, .symbol, .number, .symbol, .word] := by
  intro x run y
  have hx : LineBreakMode.ascii.BreakFree x := List.forall_iff_forall_mem.mp (by decide)
  have hrun : LineBreakMode.ascii.BreakFree run := List.forall_iff_forall_mem.mp (by decide)
  have hy : LineBreakMode.ascii.BreakFree y := List.forall_iff_forall_mem.mp (by decide)
  have hblank : ∀ c ∈ run, isWhiteSpace c = true :=
    List.forall_iff_forall_mem.mp (by decide +kernel)
  obtain ⟨before, after, hbefore, hafter, hboth⟩ :=
    all_between_blank hx hrun hy (by decide) hblank
  have hleft : (all (.start .ascii x)).value = .ok [.string, .symbol, .number, .symbol] := by
    decide +kernel
  have hright : (all (.start .ascii y)).value = .ok [.symbol, .number, .symbol, .word] := by
    decide +kernel
  cases hbefore.symm.trans hleft
  cases hafter.symm.trans hright
  exact (hboth rfl (by decide)).1

end Token

end LexScan
