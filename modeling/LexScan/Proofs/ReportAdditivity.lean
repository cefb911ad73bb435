import LexScan.Proofs.ReportOfLines

/-!
# Reports line by line

A report depends on the bodies of the lines only, and reports of texts add up when the
texts are put one behind the other: if the first one ends a line, and no CRLF comes about
at the seam. Which terminators end the lines makes no difference, nor does it whether the
last line has one. So no token sees past its line and no terminator is counted.
-/

namespace LexScan

namespace LineBreakMode

variable {mode : LineBreakMode}

/-- Nothing, or a text with a terminator at its end. -/
def EndsLine (mode : LineBreakMode) (t : Text) : Prop :=
  t = [] ∨ ∃ before terminator, t = before ++ terminator ∧ mode.IsTerminator terminator []

/-- Two texts with the same lines except for the terminators that end them. -/
inductive Exchanged (mode : LineBreakMode) : Text → Text → Prop where
  | last {body : Text} (hbody : mode.BreakFree body) : Exchanged mode body body
  | line {body terminator terminator' rest rest' : Text} (hbody : mode.BreakFree body)
      (hend : mode.IsTerminator terminator rest) (hend' : mode.IsTerminator terminator' rest')
      (hmore : Exchanged mode rest rest') :
      Exchanged mode (body ++ terminator ++ rest) (body ++ terminator' ++ rest')

/-! ## Ends of lines -/

/-- A terminator stays one in front of another text, unless CR comes to stand before LF. -/
theorem IsTerminator.before {terminator rest u : Text} (h : mode.IsTerminator terminator rest)
    (hcrlf : ¬ (terminator = ['\r'] ∧ u.head? = some '\n')) : mode.IsTerminator terminator u := by
  cases h with
  | crlf => exact .crlf u
  | single hbreak _ =>
    refine .single hbreak ?_
    rintro ⟨rfl, hhead⟩
    exact hcrlf ⟨rfl, hhead⟩

theorem IsTerminator.before_append {terminator rest : Text}
    (h : mode.IsTerminator terminator rest) (hne : rest ≠ []) (u : Text) :
    mode.IsTerminator terminator (rest ++ u) := by
  cases h with
  | crlf => exact .crlf _
  | single hbreak hcrlf =>
    refine .single hbreak ?_
    rwa [List.head?_append_of_ne_nil _ hne]

/-- A terminator ends with a break character. -/
theorem IsTerminator.getLast? {terminator rest : Text} (h : mode.IsTerminator terminator rest) :
    ∃ c, terminator.getLast? = some c ∧ mode.isBreak c = true := by
  cases h with
  | crlf => exact ⟨'\n', rfl, by cases mode <;> rfl⟩
  | single hbreak _ => exact ⟨_, rfl, hbreak⟩

theorem endsLine_iff {t : Text} : mode.EndsLine t ↔ ∀ c ∈ t.getLast?, mode.isBreak c = true := by
  constructor
  · rintro (rfl | ⟨before, terminator, rfl, hend⟩)
    · intro c hc
      cases hc
    · obtain ⟨last, hlast, hbreak⟩ := hend.getLast?
      intro c hc
      rw [List.getLast?_append, hlast] at hc
      obtain rfl : last = c := by simpa using hc
      exact hbreak
  · intro h
    rcases List.eq_nil_or_concat t with rfl | ⟨before, c, rfl⟩
    · exact .inl rfl
    · have hbreak := h c (by simp)
      exact .inr ⟨before, [c], by simp, .single hbreak (by simp)⟩

/-! ## Lines of two texts -/

/-- The lines of a text that ends a line, and then those of another. -/
theorem Lines.append {a b : Text} {pieces more : List Text} (ha : mode.Lines a pieces)
    (hb : mode.Lines b more) (hend : ∀ c ∈ a.getLast?, mode.isBreak c = true)
    (hcrlf : ¬ (a.getLast? = some '\r' ∧ b.head? = some '\n')) :
    mode.Lines (a ++ b) (pieces ++ more) := by
  induction ha with
  | done => exact hb
  | @last body hne hbody =>
    have hlast := List.getLast?_eq_some_getLast hne
    have hbreak := hend _ hlast
    rw [hbody _ (List.getLast_mem hne)] at hbreak
    cases hbreak
  | @line body terminator rest later hbody hterminator hlater ih =>
    by_cases hrest : rest = []
    -- At the seam the last terminator of the one text comes to stand before the other.
    · subst hrest
      obtain rfl := hlater.of_nil
      have hterminator' : mode.IsTerminator terminator b := by
        apply hterminator.before
        rintro ⟨rfl, hhead⟩
        exact hcrlf ⟨by simp, hhead⟩
      rw [List.append_nil]
      exact .line hbody hterminator' hb
    · have hlast := List.getLast?_append_of_ne_nil (body ++ terminator) hrest
      rw [hlast] at hend hcrlf
      rw [List.append_assoc]
      exact .line hbody (hterminator.before_append hrest b) (ih hend hcrlf)

/-- A terminator behind a text that ends no line makes no new line. -/
theorem Lines.append_terminator {t terminator : Text} {pieces : List Text}
    (h : mode.Lines t pieces) (hopen : ¬ mode.EndsLine t)
    (hend : mode.IsTerminator terminator []) :
    ∃ others, mode.Lines (t ++ terminator) others ∧
      others.map mode.body = pieces.map mode.body := by
  induction h with
  | done => exact absurd (.inl rfl) hopen
  | @last body hne hbody =>
    have hline : mode.Lines (body ++ terminator ++ []) [body ++ terminator] :=
      .line hbody hend .done
    rw [List.append_nil] at hline
    refine ⟨_, hline, ?_⟩
    have hsame := body_append_terminator hbody hend []
    rw [List.append_nil] at hsame
    have hself : mode.body body = body := by
      simpa using body_append hbody []
    rw [List.map_singleton, List.map_singleton, hsame, hself]
  | @line body own rest more hbody hown hmore ih =>
    have hne : rest ≠ [] := by
      rintro rfl
      exact hopen (.inr ⟨body, own, List.append_nil _, hown⟩)
    have hopen' : ¬ mode.EndsLine rest := by
      rw [endsLine_iff, List.getLast?_append_of_ne_nil (body ++ own) hne] at hopen
      rwa [endsLine_iff]
    obtain ⟨others, hlines, hbodies⟩ := ih hopen'
    refine ⟨(body ++ own) :: others, ?_, ?_⟩
    · rw [List.append_assoc]
      exact .line hbody (hown.before_append hne terminator) hlines
    · rw [List.map_cons, List.map_cons, hbodies]

theorem Exchanged.bodies {t u : Text} (h : mode.Exchanged t u) :
    ∃ pieces others, mode.Lines t pieces ∧ mode.Lines u others ∧
      pieces.map mode.body = others.map mode.body := by
  induction h with
  | @last body hbody =>
    obtain ⟨pieces, hlines⟩ := mode.exists_lines body
    exact ⟨pieces, pieces, hlines, hlines, rfl⟩
  | @line body terminator terminator' rest rest' hbody hend hend' _ ih =>
    obtain ⟨pieces, others, hlines, hlines', hbodies⟩ := ih
    have hsame := body_append_terminator hbody hend []
    have hsame' := body_append_terminator hbody hend' []
    rw [List.append_nil] at hsame hsame'
    refine ⟨_, _, .line hbody hend hlines, .line hbody hend' hlines', ?_⟩
    rw [List.map_cons, List.map_cons, hsame, hsame', hbodies]

end LineBreakMode

namespace Report

open Token (Segments)

theorem reference_append {bodies bodies' : List Text} {rows rows' : List (List Segment)}
    (h : List.Forall₂ Segments bodies rows) :
    Counts.reference (bodies ++ bodies') (rows ++ rows') =
      Counts.reference bodies rows + Counts.reference bodies' rows' := by
  induction h with
  | nil => exact (Counts.empty_add _).symm
  | cons hrow _ ih =>
    rw [List.cons_append, List.cons_append, Counts.reference_cons hrow,
      Counts.reference_cons hrow, ih, Counts.add_assoc]

/-- Two sources with the same figures. -/
def Alike (s s' : Source) : Prop :=
  ∃ counts, (attempt s).value = .ok ⟨s.name, counts⟩ ∧ (attempt s').value = .ok ⟨s'.name, counts⟩

theorem alike_of_bodies {s s' : Source} {pieces others : List Text}
    (h : s.mode.Lines s.text pieces) (h' : s'.mode.Lines s'.text others)
    (hbodies : pieces.map s.mode.body = others.map s'.mode.body) : Alike s s' := by
  obtain ⟨rows, hrows⟩ := exists_rows s.mode pieces
  have hrows' := hrows
  rw [hbodies] at hrows'
  have hattempt' := value_attempt h' hrows'
  rw [← hbodies] at hattempt'
  exact ⟨_, value_attempt h hrows, hattempt'⟩

/-- The report of two texts one behind the other, the first of which ends a line, is the
sum of their reports, unless CR comes to stand before LF. Texts whose lines have the same
bodies in the same order have the same report; among them are those that differ in their
terminators only, and a text that ends no line with one more terminator behind it. -/
theorem attempt_by_lines (mode : LineBreakMode) (m n k : Text) :
    (∀ a b, mode.EndsLine a → ¬ (a.getLast? = some '\r' ∧ b.head? = some '\n') →
      ∃ r q, (attempt ⟨m, a, mode⟩).value = .ok r ∧ (attempt ⟨n, b, mode⟩).value = .ok q ∧
        (attempt ⟨k, a ++ b, mode⟩).value = .ok { r.add q with name := k }) ∧
    (∀ t u pieces others, mode.Lines t pieces → mode.Lines u others →
      pieces.map mode.body = others.map mode.body → Alike ⟨m, t, mode⟩ ⟨n, u, mode⟩) ∧
    (∀ t u, mode.Exchanged t u → Alike ⟨m, t, mode⟩ ⟨n, u, mode⟩) ∧
    (∀ t terminator, ¬ mode.EndsLine t → mode.IsTerminator terminator [] →
      Alike ⟨m, t ++ terminator, mode⟩ ⟨n, t, mode⟩) := by
  refine ⟨?_, ?_, ?_, ?_⟩
  · intro a b hend hcrlf
    obtain ⟨pieces, ha⟩ := mode.exists_lines a
    obtain ⟨more, hb⟩ := mode.exists_lines b
    obtain ⟨rows, hrows⟩ := exists_rows mode pieces
    obtain ⟨rows', hrows'⟩ := exists_rows mode more
    have hboth := ha.append hb (LineBreakMode.endsLine_iff.mp hend) hcrlf
    have hrowsBoth : List.Forall₂ Segments ((pieces ++ more).map mode.body) (rows ++ rows') := by
      rw [List.map_append]
      exact List.rel_append hrows hrows'
    refine ⟨_, _, value_attempt ha hrows, value_attempt hb hrows', ?_⟩
    rw [value_attempt hboth hrowsBoth, List.map_append, reference_append hrows]
    rfl
  · intro t u pieces others ht hu hbodies
    exact alike_of_bodies ht hu hbodies
  · intro t u h
    obtain ⟨pieces, others, ht, hu, hbodies⟩ := h.bodies
    exact alike_of_bodies ht hu hbodies
  · intro t terminator hopen hend
    obtain ⟨pieces, ht⟩ := mode.exists_lines t
    obtain ⟨others, hmore, hbodies⟩ := ht.append_terminator hopen hend
    exact alike_of_bodies hmore ht hbodies

/-- A quote that is not closed at the end of a line, a terminator taken away, one put in
the place of another, and one put behind. -/
theorem attempt_by_lines_seams :
    let unclosed : Text := ['"', '\r']
    let line : Text := ['x', '\n']
    LineBreakMode.ascii.EndsLine unclosed ∧ ¬ (unclosed.getLast? = some '\r' ∧
      (['"'] : Text).head? = some '\n') ∧
    (∃ r q, (attempt ⟨[], unclosed, .ascii⟩).value = .ok r ∧
      (attempt ⟨[], ['"'], .ascii⟩).value = .ok q ∧
      (attempt ⟨[], unclosed ++ ['"'], .ascii⟩).value = .ok { r.add q with name := [] }) ∧
    Alike ⟨[], line, .ascii⟩ ⟨[], ['x'], .ascii⟩ ∧
    Alike ⟨[], line ++ ['x'], .ascii⟩ ⟨[], ['x', '\r', '\n', 'x'], .ascii⟩ ∧
    Alike ⟨[], ['x'] ++ ['\r', '\n'], .ascii⟩ ⟨[], ['x'], .ascii⟩ := by
  intro unclosed line
  have hends : LineBreakMode.ascii.EndsLine unclosed :=
    .inr ⟨['"'], ['\r'], rfl, .single rfl (by decide)⟩
  have hseam : ¬ (unclosed.getLast? = some '\r' ∧ (['"'] : Text).head? = some '\n') := by decide
  have hx : LineBreakMode.ascii.BreakFree ['x'] := by
    intro c hc
    obtain rfl := List.mem_singleton.mp hc
    rfl
  have hopen : ¬ LineBreakMode.ascii.EndsLine ['x'] := by
    rw [LineBreakMode.endsLine_iff]
    intro h
    cases h 'x' rfl
  have hline : LineBreakMode.ascii.Lines (['x'] ++ ['\n'] ++ []) [['x'] ++ ['\n']] :=
    .line hx (.single rfl (by decide)) .done
  have hlast : LineBreakMode.ascii.Lines ['x'] [['x']] := .last (List.cons_ne_nil _ _) hx
  have hexchanged : LineBreakMode.ascii.Exchanged (line ++ ['x']) ['x', '\r', '\n', 'x'] :=
    .line hx (.single rfl (by decide)) (.crlf _) (.last hx)
  obtain ⟨hadd, hbodies, hexchange, hbehind⟩ := attempt_by_lines .ascii [] [] []
  exact ⟨hends, hseam, hadd unclosed ['"'] hends hseam, hbodies _ _ _ _ hline hlast rfl,
    hexchange _ _ hexchanged, hbehind _ _ hopen (.crlf [])⟩

end Report

end LexScan
