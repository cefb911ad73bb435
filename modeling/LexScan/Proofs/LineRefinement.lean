import LexScan.Proofs.BlankSeparation
import LexScan.Proofs.ReportAdditivity
import Mathlib.Algebra.BigOperators.Group.List.Basic
import Mathlib.Data.List.MinMax
import Mathlib.Order.Nat

/-!
# Lines under both conventions

Whatever ends a line by the narrow convention also ends one by the wide convention, which
knows more terminators. So every line of the one is made up of whole lines of the other, and
a report by the wide convention has no fewer lines and no longer ones.

Terminators are white space to the tokens of a text. In a text without quotes and without
two slashes in a row, where no token reaches as far as the end of its line, the tokens of
all lines are those of the text as a whole, whichever convention cuts it.
-/

namespace LexScan

open CharClass (isWhiteSpace)

namespace LineBreakMode

variable {mode mode' : LineBreakMode} {t : Text} {pieces : List Text}

/-- Characters that end a line by the wide convention only. -/
def unicodeOnly : List Char := ['\x0b', '\x0c', '\u0085', '\u2028', '\u2029']

/-- An offset at which one of the pieces of a text begins or ends. -/
def IsEdge (pieces : List Text) (o : Nat) : Prop :=
  ∃ earlier piece later, pieces = earlier ++ piece :: later ∧
    (o = Text.size earlier.flatten ∨ o = Text.size earlier.flatten + Text.size piece)

theorem isEdge_iff {o : Nat} : IsEdge pieces o ↔
    pieces ≠ [] ∧ ∃ earlier later, pieces = earlier ++ later ∧ o = Text.size earlier.flatten := by
  constructor
  · rintro ⟨earlier, piece, later, rfl, rfl | rfl⟩
    · exact ⟨by simp, earlier, piece :: later, rfl, rfl⟩
    · exact ⟨by simp, earlier ++ [piece], later, by simp, by simp⟩
  · rintro ⟨hne, earlier, later, rfl, rfl⟩
    cases later with
    | cons piece later => exact ⟨earlier, piece, later, rfl, .inl rfl⟩
    | nil =>
      rcases List.eq_nil_or_concat earlier with rfl | ⟨before, piece, rfl⟩
      · exact absurd rfl hne
      · exact ⟨before, piece, [], by simp, .inr (by simp)⟩

/-! ## From one convention to the other -/

theorem isBreak_unicode {c : Char} (h : ascii.isBreak c = true) : unicode.isBreak c = true := by
  simp only [isBreak, Bool.or_eq_true, decide_eq_true_eq] at h ⊢
  tauto

theorem isBreak_eq {c : Char} (h : c ∉ unicodeOnly) : ascii.isBreak c = unicode.isBreak c := by
  simp only [unicodeOnly, List.mem_cons, List.not_mem_nil, or_false, not_or] at h
  simp [isBreak, h]

/-- A terminator by the narrow convention is one by the wide convention. -/
theorem IsTerminator.unicode {terminator rest : Text} (h : ascii.IsTerminator terminator rest) :
    unicode.IsTerminator terminator rest := by
  cases h with
  | crlf => exact .crlf rest
  | single hbreak hcrlf => exact .single (isBreak_unicode hbreak) hcrlf

/-- The lines by the narrow convention are made up of those by the wide one. -/
theorem exists_groups (h : ascii.Lines t pieces) :
    ∃ groups : List (List Text), groups.map List.flatten = pieces ∧
      (∀ group ∈ groups, group ≠ []) ∧ unicode.Lines t groups.flatten := by
  induction h with
  | done => exact ⟨[], rfl, by simp, .done⟩
  | @last body hne hbody =>
    obtain ⟨group, hgroup⟩ := unicode.exists_lines body
    refine ⟨[group], ?_, ?_, ?_⟩
    · rw [List.map_singleton, hgroup.flatten]
    · intro other hother
      obtain rfl := List.mem_singleton.mp hother
      rintro rfl
      exact hne hgroup.flatten.symm
    · rwa [List.flatten_singleton]
  | @line body terminator rest more hbody hend hmore ih =>
    obtain ⟨groups, hpieces, hnonempty, hlines⟩ := ih
    obtain ⟨group, hgroup⟩ := unicode.exists_lines (body ++ terminator)
    have hlast : ∀ c ∈ (body ++ terminator).getLast?, unicode.isBreak c = true := by
      obtain ⟨last, hlast, hbreak⟩ := hend.unicode.getLast?
      intro c hc
      rw [List.getLast?_append_of_ne_nil _ hend.ne_nil, hlast] at hc
      obtain rfl := Option.some.inj hc
      exact hbreak
    refine ⟨group :: groups, ?_, ?_, ?_⟩
    · rw [List.map_cons, hgroup.flatten, hpieces]
    · intro other hother
      rcases List.mem_cons.mp hother with rfl | hother
      · rintro rfl
        exact List.append_ne_nil_of_right_ne_nil body hend.ne_nil hgroup.flatten.symm
      · exact hnonempty other hother
    · exact hgroup.append hlines hlast (hend.not_divided body)

/-- Edges of pieces stay edges when the pieces are cut further. -/
theorem isEdge_flatten {groups : List (List Text)} (hnonempty : ∀ group ∈ groups, group ≠ [])
    {o : Nat} (h : IsEdge (groups.map List.flatten) o) : IsEdge groups.flatten o := by
  obtain ⟨hne, earlier, later, hsplit, rfl⟩ := isEdge_iff.mp h
  obtain ⟨before, behind, rfl, rfl, _⟩ := List.map_eq_append_iff.mp hsplit
  refine isEdge_iff.mpr ⟨?_, before.flatten, behind.flatten, List.flatten_append, ?_⟩
  · intro hnil
    have hall := List.flatten_eq_nil_iff.mp hnil
    have hgroups : before ++ behind ≠ [] := mt (congrArg (List.map List.flatten)) hne
    obtain ⟨group, hgroup⟩ := List.exists_mem_of_ne_nil _ hgroups
    exact hnonempty group hgroup (hall group hgroup)
  · rw [List.flatten_flatten]

theorem length_le_length_flatten {groups : List (List Text)}
    (hnonempty : ∀ group ∈ groups, group ≠ []) : groups.length ≤ groups.flatten.length := by
  have hone : ∀ n ∈ groups.map List.length, 1 ≤ n := by
    intro n hn
    obtain ⟨group, hgroup, rfl⟩ := List.mem_map.mp hn
    exact List.length_pos_iff.mpr (hnonempty group hgroup)
  have hsum := List.length_le_sum_of_one_le _ hone
  rwa [List.length_map, ← List.length_flatten] at hsum

/-! ## Bodies -/

theorem IsTerminator.isBreak {terminator rest : Text} (h : mode.IsTerminator terminator rest) :
    ∀ c ∈ terminator, mode.isBreak c = true := by
  intro c hc
  cases h with
  | crlf =>
    simp only [List.mem_cons, List.not_mem_nil, or_false] at hc
    rcases hc with rfl | rfl <;> cases mode <;> rfl
  | single hbreak _ =>
    obtain rfl := List.mem_singleton.mp hc
    exact hbreak

/-- The body of a line is as long as the line is without break characters. -/
theorem length_body_of_mem {piece : Text} (h : mode.Lines t pieces) (hpiece : piece ∈ pieces) :
    (mode.body piece).length = piece.countP (!mode.isBreak ·) := by
  obtain ⟨earlier, later, hsplit⟩ := List.append_of_mem hpiece
  obtain ⟨_, body, terminator, rfl, hbody, hend⟩ := h.isLine earlier piece later hsplit
  have hall : body.countP (!mode.isBreak ·) = body.length := by
    apply List.countP_eq_length.mpr
    intro c hc
    rw [hbody c hc]
    rfl
  rw [List.countP_append, hall]
  rcases hend with hend | ⟨rfl, _⟩
  · have hnone : terminator.countP (!mode.isBreak ·) = 0 := by
      apply List.countP_eq_zero.mpr
      intro c hc
      simp [hend.isBreak c hc]
    rw [body_of_terminated hbody hend, hnone, Nat.add_zero]
  · rw [List.append_nil, body_of_breakFree hbody]
    rfl

/-- No line by the wide convention is longer than the longest one by the narrow one. -/
theorem longest_le {groups : List (List Text)} (h : ascii.Lines t (groups.map List.flatten))
    (hfine : unicode.Lines t groups.flatten) :
    ((groups.flatten.map unicode.body).map List.length).foldr max 0 ≤
      (((groups.map List.flatten).map ascii.body).map List.length).foldr max 0 := by
  apply List.max_le_of_forall_le
  intro n hn
  simp only [List.map_map, List.mem_map, Function.comp_apply] at hn
  obtain ⟨piece, hpiece, rfl⟩ := hn
  obtain ⟨group, hgroup, hmem⟩ := List.mem_flatten.mp hpiece
  have hwhole : group.flatten ∈ groups.map List.flatten := List.mem_map_of_mem hgroup
  have hfewer : ∀ c ∈ piece, (!unicode.isBreak c) = true → (!ascii.isBreak c) = true := by
    intro c _ hc
    cases hascii : ascii.isBreak c with
    | false => rfl
    | true =>
      rw [isBreak_unicode hascii] at hc
      cases hc
  have hle : (unicode.body piece).length ≤ (ascii.body group.flatten).length := calc
    (unicode.body piece).length = piece.countP (!unicode.isBreak ·) :=
      length_body_of_mem hfine hpiece
    _ ≤ piece.countP (!ascii.isBreak ·) := List.countP_mono_left hfewer
    _ ≤ group.flatten.countP (!ascii.isBreak ·) :=
      (List.sublist_flatten_of_mem hmem).countP_le
    _ = (ascii.body group.flatten).length := (length_body_of_mem h hwhole).symm
  exact List.le_max_of_le (List.mem_map_of_mem (List.mem_map_of_mem hwhole)) hle

theorem body_congr (h : ∀ c ∈ t, mode.isBreak c = mode'.isBreak c) :
    mode.body t = mode'.body t := by
  induction t with
  | nil => rfl
  | cons c t ih =>
    have hc := h c List.mem_cons_self
    have hbehind := ih fun d hd => h d (List.mem_cons_of_mem c hd)
    rw [body, body] at hbehind ⊢
    rw [List.takeWhile_cons, List.takeWhile_cons, hc, hbehind]

/-- Conventions that agree on the characters of a text agree on its lines. -/
theorem Lines.congr (hl : mode.Lines t pieces) (h : ∀ c ∈ t, mode.isBreak c = mode'.isBreak c) :
    mode'.Lines t pieces := by
  induction hl with
  | done => exact .done
  | last hne hbody =>
    refine .last hne ?_
    intro c hc
    rw [← h c hc]
    exact hbody c hc
  | @line body terminator rest more hbody hend hmore ih =>
    refine .line ?_ ?_ (ih fun c hc => h c (List.mem_append_right _ hc))
    · intro c hc
      rw [← h c (by simp [hc])]
      exact hbody c hc
    · cases hend with
      | crlf => exact .crlf rest
      | @single c _ hbreak hcrlf =>
        rw [h c (by simp)] at hbreak
        exact .single hbreak hcrlf

theorem Lines.map_body_congr (hl : mode.Lines t pieces)
    (h : ∀ c ∈ t, mode.isBreak c = mode'.isBreak c) :
    pieces.map mode.body = pieces.map mode'.body := by
  apply List.map_congr_left
  intro piece hpiece
  apply body_congr
  intro c hc
  apply h
  rw [← hl.flatten]
  exact List.mem_flatten_of_mem hpiece hc

end LineBreakMode

namespace Token

variable {mode : LineBreakMode} {t : Text} {pieces : List Text} {rows : List (List Segment)}

theorem isWhiteSpace_of_isBreak {c : Char} (h : mode.isBreak c = true) :
    isWhiteSpace c = true := by
  have hwide : LineBreakMode.unicode.isBreak c = true := by
    cases mode with
    | ascii => exact LineBreakMode.isBreak_unicode h
    | unicode => exact h
  simp only [LineBreakMode.isBreak, Bool.or_eq_true, decide_eq_true_eq] at hwide
  rcases hwide with (((((rfl | rfl) | rfl) | rfl) | rfl) | rfl) | rfl <;> decide

/-- In a text without quotes and without two slashes in a row, the tokens of the lines are
the tokens of the text as a whole. -/
theorem segments_of_lines (h : mode.Lines t pieces)
    (hrows : List.Forall₂ Segments (pieces.map mode.body) rows) (hquote : '"' ∉ t)
    (hslashes : ¬ ['/', '/'] <:+: t) :
    ∃ segments, Segments t segments ∧ kinds segments = rows.flatMap kinds := by
  -- By the lines: a terminator is blank, so it keeps the tokens before it from those behind,
  -- and neither quotes nor comments reach over it.
  induction h generalizing rows with
  | done =>
    cases hrows
    exact ⟨[], .done, rfl⟩
  | @last body hne hbody =>
    obtain ⟨row, rows, hrow, hnone, rfl⟩ := List.forall₂_cons_left_iff.mp hrows
    cases hnone
    rw [LineBreakMode.body_of_breakFree hbody] at hrow
    exact ⟨row, hrow, by simp⟩
  | @line body terminator rest more hbody hend hmore ih =>
    obtain ⟨row, rows, hrow, hrows', rfl⟩ := List.forall₂_cons_left_iff.mp hrows
    rw [LineBreakMode.body_of_terminated hbody hend] at hrow
    rw [List.append_assoc] at hquote hslashes ⊢
    obtain ⟨after, hafter, hkinds⟩ := ih hrows'
      (fun hmem => hquote (by simp [hmem]))
      (fun hpart => hslashes (hpart.trans ⟨body ++ terminator, [], by simp⟩))
    have hcomment : .comment ∉ kinds row :=
      hrow.comment_not_mem fun hpart => hslashes (hpart.trans (List.prefix_append _ _).isInfix)
    have heven : body.count '"' % 2 = 0 := by
      rw [List.count_eq_zero.mpr fun hmem => hquote (List.mem_append_left _ hmem)]
    have hwhite : ∀ c ∈ terminator, isWhiteSpace c = true := fun c hc =>
      isWhiteSpace_of_isBreak (hend.isBreak c hc)
    obtain ⟨segments, hsegments, hboth⟩ :=
      hrow.append_blank hcomment heven hend.ne_nil hwhite hafter
    exact ⟨segments, hsegments, by rw [hboth, hkinds, List.flatMap_cons]⟩

end Token

namespace Report

open LineBreakMode (ascii unicode IsEdge unicodeOnly)
open Token (Segments kinds)

/-- The lines by the narrow convention are made up of one or more lines by the wide one each,
so that they begin and end where lines of the other kind do, and the wide convention gives no
fewer lines and no longer ones. In a text without quotes and without two slashes in a row
both conventions give the same tokens, and in a text without the terminators that only one
of them knows they give the same report. -/
theorem attempt_refined (name t : Text) :
    ∃ (pieces : List Text) (groups : List (List Text)) (narrow wide : Counts),
      (∀ ps, ascii.Lines t ps ↔ ps = pieces) ∧
      (∀ ps, unicode.Lines t ps ↔ ps = groups.flatten) ∧
      groups.map List.flatten = pieces ∧ (∀ group ∈ groups, group ≠ []) ∧
      (∀ o, IsEdge pieces o → IsEdge groups.flatten o) ∧
      (attempt ⟨name, t, ascii⟩).value = .ok ⟨name, narrow⟩ ∧
      (attempt ⟨name, t, unicode⟩).value = .ok ⟨name, wide⟩ ∧
      narrow.lines ≤ wide.lines ∧ wide.longestLine ≤ narrow.longestLine ∧
      ('"' ∉ t → ¬ ['/', '/'] <:+: t →
        wide.words = narrow.words ∧ wide.numbers = narrow.numbers ∧
        wide.symbols = narrow.symbols ∧ wide.strings = narrow.strings ∧
        wide.comments = narrow.comments) ∧
      ((∀ c ∈ t, c ∉ unicodeOnly) → wide = narrow) := by
  obtain ⟨pieces, hnarrow⟩ := ascii.exists_lines t
  obtain ⟨groups, rfl, hnonempty, hwide⟩ := LineBreakMode.exists_groups hnarrow
  obtain ⟨rows, hrows⟩ := exists_rows ascii (groups.map List.flatten)
  obtain ⟨rows', hrows'⟩ := exists_rows unicode groups.flatten
  refine ⟨_, groups, _, _, ?_, ?_, rfl, hnonempty, ?_, value_attempt hnarrow hrows,
    value_attempt hwide hrows', ?_, LineBreakMode.longest_le hnarrow hwide, ?_, ?_⟩
  · intro ps
    constructor
    · exact fun h => h.unique hnarrow
    · rintro rfl
      exact hnarrow
  · intro ps
    constructor
    · exact fun h => h.unique hwide
    · rintro rfl
      exact hwide
  · exact fun o h => LineBreakMode.isEdge_flatten hnonempty h
  · change ((groups.map List.flatten).map ascii.body).length ≤
      (groups.flatten.map unicode.body).length
    rw [List.length_map, List.length_map, List.length_map]
    exact LineBreakMode.length_le_length_flatten hnonempty
  · intro hquote hslashes
    obtain ⟨segments, hsegments, hkinds⟩ :=
      Token.segments_of_lines hnarrow hrows hquote hslashes
    obtain ⟨segments', hsegments', hkinds'⟩ :=
      Token.segments_of_lines hwide hrows' hquote hslashes
    have hsame : rows'.flatMap kinds = rows.flatMap kinds := by
      rw [← hkinds, ← hkinds', hsegments.unique hsegments']
    simp [Counts.reference, hsame]
  · intro hnone
    have hagree : ∀ c ∈ t, ascii.isBreak c = unicode.isBreak c := fun c hc =>
      LineBreakMode.isBreak_eq (hnone c hc)
    have hpieces := hwide.unique (hnarrow.congr hagree)
    have hbodies := hnarrow.map_body_congr hagree
    rw [hpieces] at hrows' ⊢
    rw [← hbodies] at hrows' ⊢
    rw [rows_unique hrows' hrows]

/-- Cutting a line between a word and a number leaves both, and with CRLF only there is
nothing to cut, not even in front of a quote. -/
theorem attempt_refined_at_tab :
    let t : Text := ['x', '\x0b', '1', '\r', '\n']
    let u : Text := ['é', '\r', '\n', '"']
    ('"' ∉ t ∧ ¬ ['/', '/'] <:+: t ∧ ∃ (groups : List (List Text)) (narrow wide : Counts),
      groups.map List.flatten = [t] ∧ groups.flatten = [['x', '\x0b'], ['1', '\r', '\n']] ∧
      (attempt ⟨[], t, ascii⟩).value = .ok ⟨[], narrow⟩ ∧
      (attempt ⟨[], t, unicode⟩).value = .ok ⟨[], wide⟩ ∧
      wide.words = narrow.words ∧ wide.numbers = narrow.numbers ∧
      wide.symbols = narrow.symbols ∧ wide.strings = narrow.strings ∧
      wide.comments = narrow.comments) ∧
    (∀ c ∈ u, c ∉ unicodeOnly) ∧ ∃ counts,
      (attempt ⟨[], u, ascii⟩).value = .ok ⟨[], counts⟩ ∧
      (attempt ⟨[], u, unicode⟩).value = .ok ⟨[], counts⟩ := by
  intro t u
  have hquote : '"' ∉ t := by decide
  have hslashes : ¬ ['/', '/'] <:+: t := by decide
  have hnone : ∀ c ∈ u, c ∉ unicodeOnly := by
    have hall : u.all (fun c => decide (c ∉ unicodeOnly)) = true := by decide
    simpa using hall
  have hbody : ascii.BreakFree ['x', '\x0b', '1'] := by
    have hall : (['x', '\x0b', '1'] : Text).all (!ascii.isBreak ·) = true := by decide
    simpa [LineBreakMode.BreakFree] using hall
  have hfree : ∀ c, unicode.isBreak c = false → unicode.BreakFree [c] := by
    intro c hc d hd
    obtain rfl := List.mem_singleton.mp hd
    exact hc
  have hcoarse : ascii.Lines (['x', '\x0b', '1'] ++ ['\r', '\n'] ++ []) [t] :=
    .line hbody (.crlf []) .done
  have hlast : unicode.Lines (['1'] ++ ['\r', '\n'] ++ []) [['1', '\r', '\n']] :=
    .line (hfree '1' rfl) (.crlf []) .done
  have hfine : unicode.Lines (['x'] ++ ['\x0b'] ++ ['1', '\r', '\n'])
      [['x', '\x0b'], ['1', '\r', '\n']] :=
    .line (hfree 'x' rfl) (.single rfl (by decide)) hlast
  obtain ⟨pieces, groups, narrow, wide, hpieces, hgroups, hflatten, _, _, hn, hw, _, _, hsame, _⟩ :=
    attempt_refined [] t
  obtain ⟨_, _, narrow', wide', _, _, _, _, _, hn', hw', _, _, _, halike⟩ := attempt_refined [] u
  refine ⟨⟨hquote, hslashes, groups, narrow, wide, ?_, ?_, hn, hw, hsame hquote hslashes⟩,
    hnone, narrow', hn', ?_⟩
  · rw [hflatten]
    exact ((hpieces _).mp hcoarse).symm
  · exact ((hgroups _).mp hfine).symm
  · rwa [halike hnone] at hw'

end Report

end LexScan
