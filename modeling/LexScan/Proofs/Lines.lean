import LexScan.LineBreak

/-!
# The lines of a text

A text is in exactly one way a row of lines: bodies without break characters, each
followed by one terminator, where CR and LF directly after it are always one and not
two, and only the last line may lack its terminator. `Lines` says this of a text and
its lines, without saying how they are found. What `LineBreakMode.line` takes with the
terminator is always the first of them.
-/

namespace LexScan.LineBreakMode

/-- No character ends a line. -/
def BreakFree (mode : LineBreakMode) (t : Text) : Prop := ∀ c ∈ t, mode.isBreak c = false

/-- One terminator in front of the rest of a text: CRLF, or a single break character
that is not the CR of a CRLF. -/
inductive IsTerminator (mode : LineBreakMode) : Text → Text → Prop where
  | crlf (rest : Text) : IsTerminator mode ['\r', '\n'] rest
  | single {c : Char} {rest : Text} (hbreak : mode.isBreak c = true)
      (hcrlf : ¬ (c = '\r' ∧ rest.head? = some '\n')) : IsTerminator mode [c] rest

/-- A text and its lines. -/
inductive Lines (mode : LineBreakMode) : Text → List Text → Prop where
  | done : Lines mode [] []
  | last {body : Text} (hne : body ≠ []) (hbody : mode.BreakFree body) :
      Lines mode body [body]
  | line {body terminator rest : Text} {more : List Text} (hbody : mode.BreakFree body)
      (hend : mode.IsTerminator terminator rest) (hmore : Lines mode rest more) :
      Lines mode (body ++ terminator ++ rest) ((body ++ terminator) :: more)

/-- A piece of a text as one of its lines, in front of those after it: not empty, and a
body with one terminator, which may be missing if no line comes after it. -/
def IsLine (mode : LineBreakMode) (piece : Text) (later : List Text) : Prop :=
  piece ≠ [] ∧ ∃ body terminator, piece = body ++ terminator ∧ mode.BreakFree body ∧
    (mode.IsTerminator terminator later.flatten ∨ terminator = [] ∧ later = [])

variable {mode : LineBreakMode}

/-! ## Terminators -/

/-- A terminator starts with a break character. -/
theorem IsTerminator.eq_cons {terminator rest : Text}
    (h : mode.IsTerminator terminator rest) :
    ∃ c u, terminator = c :: u ∧ mode.isBreak c = true := by
  rcases h with _ | ⟨hbreak, _⟩
  · exact ⟨'\r', ['\n'], rfl, by cases mode <;> rfl⟩
  · exact ⟨_, [], rfl, hbreak⟩

theorem IsTerminator.ne_nil {terminator rest : Text} (h : mode.IsTerminator terminator rest) :
    terminator ≠ [] := by
  obtain ⟨c, u, rfl, _⟩ := h.eq_cons
  exact List.cons_ne_nil c u

/-- CR and LF do not meet behind a terminator. -/
theorem IsTerminator.not_divided {terminator rest : Text}
    (h : mode.IsTerminator terminator rest) (before : Text) :
    ¬ ((before ++ terminator).getLast? = some '\r' ∧ rest.head? = some '\n') := by
  rintro ⟨hlast, hhead⟩
  rw [List.getLast?_append] at hlast
  cases h with
  | crlf => cases hlast
  | single _ hcrlf => exact hcrlf ⟨Option.some.inj hlast, hhead⟩

/-- `terminator?` finds a terminator exactly where one stands. -/
theorem terminator?_eq_some_iff {t terminator : Text} :
    mode.terminator? t = some terminator ↔
      ∃ rest, t = terminator ++ rest ∧ mode.IsTerminator terminator rest := by
  constructor
  · intro h
    obtain ⟨rest, rfl⟩ := terminator?_prefix h
    refine ⟨rest, rfl, ?_⟩
    cases terminator with
    | nil => exact absurd rfl (terminator?_ne_nil h)
    | cons c u =>
      by_cases hcrlf : c = '\r' ∧ (u ++ rest).head? = some '\n'
      · rw [List.cons_append, terminator?, if_pos hcrlf] at h
        rw [← Option.some.inj h]
        exact .crlf rest
      · rw [List.cons_append, terminator?_of_not_crlf mode hcrlf] at h
        by_cases hbreak : mode.isBreak c = true
        · rw [if_pos hbreak] at h
          obtain rfl : [] = u := (List.cons.inj (Option.some.inj h)).2
          exact .single hbreak hcrlf
        · rw [if_neg hbreak] at h
          cases h
  · rintro ⟨rest, rfl, h⟩
    rcases h with _ | ⟨hbreak, hcrlf⟩
    · rfl
    · rw [List.singleton_append, terminator?_of_not_crlf mode hcrlf, if_pos hbreak]

/-! ## The first line -/

theorem breakFree_nil (mode : LineBreakMode) : mode.BreakFree [] := fun _ h => by cases h

theorem breakFree_body (mode : LineBreakMode) (t : Text) : mode.BreakFree (mode.body t) := by
  intro c hc
  exact isBreak_of_mem_body hc

theorem body_append {body : Text} (h : mode.BreakFree body) (t : Text) :
    mode.body (body ++ t) = body ++ mode.body t := by
  apply List.takeWhile_append_of_pos
  intro c hc
  rw [h c hc]
  rfl

theorem afterBody_append {body : Text} (h : mode.BreakFree body) (t : Text) :
    mode.afterBody (body ++ t) = mode.afterBody t := by
  apply List.dropWhile_append_of_pos
  intro c hc
  rw [h c hc]
  rfl

theorem body_terminator {terminator rest : Text} (h : mode.IsTerminator terminator rest) :
    mode.body (terminator ++ rest) = [] := by
  obtain ⟨c, u, rfl, hbreak⟩ := h.eq_cons
  exact List.takeWhile_cons_of_neg (by simp [hbreak])

theorem afterBody_terminator {terminator rest : Text} (h : mode.IsTerminator terminator rest) :
    mode.afterBody (terminator ++ rest) = terminator ++ rest := by
  obtain ⟨c, u, rfl, hbreak⟩ := h.eq_cons
  exact List.dropWhile_cons_of_neg (by simp [hbreak])

/-- The body of a line is the same with anything behind its terminator. -/
theorem body_append_terminator {body terminator rest : Text} (hbody : mode.BreakFree body)
    (hend : mode.IsTerminator terminator rest) (u : Text) :
    mode.body (body ++ terminator ++ u) = body := by
  obtain ⟨c, v, rfl, hbreak⟩ := hend.eq_cons
  have hnone : mode.body (c :: v ++ u) = [] := List.takeWhile_cons_of_neg (by simp [hbreak])
  rw [List.append_assoc, body_append hbody, hnone, List.append_nil]

theorem body_of_breakFree {body : Text} (h : mode.BreakFree body) : mode.body body = body := by
  have hbody := body_append h []
  rwa [List.append_nil, body_nil, List.append_nil] at hbody

theorem body_of_terminated {body terminator rest : Text} (hbody : mode.BreakFree body)
    (hend : mode.IsTerminator terminator rest) : mode.body (body ++ terminator) = body := by
  have hwhole := body_append_terminator hbody hend []
  rwa [List.append_nil] at hwhole

theorem line_of_breakFree {body : Text} (h : mode.BreakFree body) :
    mode.line true body = body := by
  have hbody := body_of_breakFree h
  have hafter : mode.afterBody body = [] := by
    simpa using afterBody_append h []
  rw [line, if_pos rfl, hbody, hafter]
  exact List.append_nil body

theorem line_append {body terminator rest : Text} (hbody : mode.BreakFree body)
    (hend : mode.IsTerminator terminator rest) :
    mode.line true (body ++ terminator ++ rest) = body ++ terminator := by
  have hfound := terminator?_eq_some_iff.mpr ⟨rest, rfl, hend⟩
  rw [line, if_pos rfl, List.append_assoc, body_append hbody, body_terminator hend,
    afterBody_append hbody, afterBody_terminator hend, hfound, List.append_nil]
  rfl

/-- The first line of a text is all of it, without terminator, or ends with one. -/
theorem line_cases (mode : LineBreakMode) (t : Text) :
    (mode.BreakFree t ∧ mode.line true t = t) ∨
      ∃ body terminator rest, t = body ++ terminator ++ rest ∧ mode.BreakFree body ∧
        mode.IsTerminator terminator rest ∧ mode.line true t = body ++ terminator := by
  have hfree := mode.breakFree_body t
  cases h : mode.terminator? (mode.afterBody t) with
  | none =>
    rw [body_eq_self h] at hfree
    exact .inl ⟨hfree, line_of_breakFree hfree⟩
  | some terminator =>
    obtain ⟨rest, hafter, hend⟩ := terminator?_eq_some_iff.mp h
    have ht : t = mode.body t ++ terminator ++ rest := by
      rw [List.append_assoc, ← hafter, body_append_afterBody]
    have hline := line_append hfree hend
    rw [← ht] at hline
    exact .inr ⟨mode.body t, terminator, rest, ht, hfree, hend, hline⟩

theorem body_line (mode : LineBreakMode) (t : Text) :
    mode.body (mode.line true t) = mode.body t := by
  rcases mode.line_cases t with ⟨_, hline⟩ | ⟨body, terminator, rest, ht, hbody, hend, hline⟩
  · rw [hline]
  · have hshort := body_append_terminator hbody hend []
    rw [List.append_nil] at hshort
    rw [hline, hshort, ht, body_append_terminator hbody hend]

/-! ## Rows of lines -/

/-- A text that is not empty starts with what `line` takes of it as its first line. -/
theorem Lines.cases_line {t : Text} {pieces : List Text} (h : mode.Lines t pieces) :
    (t = [] ∧ pieces = []) ∨ ∃ rest more, t = mode.line true t ++ rest ∧
      pieces = mode.line true t :: more ∧ t ≠ [] ∧ mode.Lines rest more := by
  cases h with
  | done => exact .inl ⟨rfl, rfl⟩
  | last hne hbody =>
    refine .inr ⟨[], [], ?_, ?_, hne, .done⟩
    · rw [line_of_breakFree hbody, List.append_nil]
    · rw [line_of_breakFree hbody]
  | @line body terminator rest more hbody hend hmore =>
    have hne : body ++ terminator ++ rest ≠ [] := by
      simp [hend.ne_nil]
    refine .inr ⟨rest, more, ?_, ?_, hne, hmore⟩
    · rw [line_append hbody hend]
    · rw [line_append hbody hend]

theorem Lines.of_nil {pieces : List Text} (h : mode.Lines [] pieces) : pieces = [] := by
  rcases h.cases_line with ⟨_, hpieces⟩ | ⟨_, _, _, _, hne, _⟩
  · exact hpieces
  · exact absurd rfl hne

/-- The lines behind the first one make up the lines of the text with it. -/
theorem Lines.cons {t rest : Text} {more : List Text} (hne : t ≠ [])
    (ht : mode.line true t ++ rest = t) (hmore : mode.Lines rest more) :
    mode.Lines t (mode.line true t :: more) := by
  rcases mode.line_cases t with ⟨hfree, hline⟩ | ⟨body, terminator, rest', ht', hbody, hend, hline⟩
  · rw [hline] at ht ⊢
    obtain rfl := List.append_right_eq_self.mp ht
    obtain rfl := hmore.of_nil
    exact .last hne hfree
  · rw [hline] at ht ⊢
    obtain rfl : rest = rest' := List.append_cancel_left (ht.trans ht')
    rw [ht']
    exact .line hbody hend hmore

/-- Every text is a row of lines. -/
theorem exists_lines (mode : LineBreakMode) (t : Text) : ∃ pieces, mode.Lines t pieces := by
  induction hn : t.length using Nat.strongRecOn generalizing t with
  | ind n ih =>
    by_cases hne : t = []
    · exact ⟨[], hne ▸ .done⟩
    obtain ⟨rest, ht⟩ := mode.line_prefix true t
    have hline := List.length_pos_iff.mpr (mode.line_ne_nil hne)
    have hless : rest.length < n := by
      rw [← hn, ← ht, List.length_append]
      omega
    obtain ⟨more, hmore⟩ := ih _ hless rest rfl
    exact ⟨_, .cons hne ht hmore⟩

/-- A text has its lines in one way only. -/
theorem Lines.unique {t : Text} {pieces others : List Text} (h : mode.Lines t pieces)
    (hothers : mode.Lines t others) : pieces = others := by
  induction pieces generalizing t others with
  | nil =>
    rcases h.cases_line with ⟨rfl, _⟩ | ⟨_, _, _, hpieces, _, _⟩
    · exact hothers.of_nil.symm
    · cases hpieces
  | cons piece pieces ih =>
    rcases h.cases_line with ⟨_, hpieces⟩ | ⟨rest, more, ht, hpieces, hne, hmore⟩
    · cases hpieces
    rcases hothers.cases_line with ⟨hnil, _⟩ | ⟨rest', more', ht', rfl, _, hmore'⟩
    · exact absurd hnil hne
    obtain rfl : rest = rest' := List.append_cancel_left (ht.symm.trans ht')
    obtain ⟨rfl, rfl⟩ := List.cons.inj hpieces
    rw [ih hmore hmore']

theorem Lines.flatten {t : Text} {pieces : List Text} (h : mode.Lines t pieces) :
    pieces.flatten = t := by
  induction h with
  | done => rfl
  | last _ _ => exact List.flatten_singleton
  | line _ _ _ ih => rw [List.flatten_cons, ih]

theorem Lines.isLine {t : Text} {pieces : List Text} (h : mode.Lines t pieces) :
    ∀ earlier piece later, pieces = earlier ++ piece :: later → mode.IsLine piece later := by
  induction h with
  | done =>
    intro earlier piece later hsplit
    cases earlier <;> cases hsplit
  | @last body hne hbody =>
    intro earlier piece later hsplit
    rcases List.singleton_eq_append_iff.mp hsplit with ⟨_, hlast⟩ | ⟨_, hnone⟩
    · obtain ⟨rfl, rfl⟩ := List.cons.inj hlast
      exact ⟨hne, piece, [], (List.append_nil piece).symm, hbody, .inr ⟨rfl, rfl⟩⟩
    · cases hnone
  | @line body terminator rest more hbody hend hmore ih =>
    intro earlier piece later hsplit
    cases earlier with
    | nil =>
      obtain ⟨rfl, rfl⟩ := List.cons.inj hsplit
      rw [← hmore.flatten] at hend
      exact ⟨List.append_ne_nil_of_right_ne_nil body hend.ne_nil, body, terminator, rfl,
        hbody, .inl hend⟩
    | cons first earlier => exact ih earlier piece later (List.cons.inj hsplit).2

end LexScan.LineBreakMode
