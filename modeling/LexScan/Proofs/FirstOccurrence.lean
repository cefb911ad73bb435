import LexScan.Proofs.Literals
import LexScan.Proofs.OffsetArithmetic

/-!
# The first occurrence of a needle

A run till a needle ends at the first offset, from that of the cursor on, at which the text
goes on with the needle, or at the end of the text where there is none. What decides is the
least offset: the needle may overlap itself, and what looks like a beginning of it may not
go on so. The text is searched by characters, and a search of its bytes ends at the same
place, since no needle starts inside a character.
-/

namespace LexScan

namespace Text

variable {needle t r s : Text} {first stop n : Nat}

/-- At this offset the text goes on with the needle. -/
def StartsAt (t needle : Text) (n : Nat) : Prop := ∃ r, t.from? n = some r ∧ needle <+: r

/-- The first offset from a given one on where the needle starts, or the end of the text if
it starts nowhere from there on. -/
inductive FirstFrom (t needle : Text) (first : Nat) : Nat → Prop where
  | found {stop : Nat} (hle : first ≤ stop) (hstarts : t.StartsAt needle stop)
      (hleast : ∀ n, first ≤ n → n < stop → ¬ t.StartsAt needle n) :
      FirstFrom t needle first stop
  | absent (hnone : ∀ n, first ≤ n → ¬ t.StartsAt needle n) : FirstFrom t needle first t.size

theorem FirstFrom.unique {stop' : Nat} (h : t.FirstFrom needle first stop)
    (h' : t.FirstFrom needle first stop') : stop' = stop := by
  cases h with
  | found hle hstarts hleast =>
    cases h' with
    | found hle' hstarts' hleast' =>
      rcases Nat.lt_trichotomy stop' stop with hlt | heq | hlt
      · exact absurd hstarts' (hleast _ hle' hlt)
      · exact heq
      · exact absurd hstarts (hleast' _ hle hlt)
    | absent hnone => exact absurd hstarts (hnone _ hle)
  | absent hnone =>
    cases h' with
    | found hle' hstarts' _ => exact absurd hstarts' (hnone _ hle')
    | absent _ => rfl

/-! ## The text before a needle -/

theorem before_of_isPrefix (h : needle <+: t) : before needle t = [] := by
  cases t with
  | nil => rfl
  | cons c t => exact if_pos (List.isPrefixOf_iff_prefix.mpr h)

theorem before_cons_of_not_isPrefix {c : Char} (h : ¬ needle <+: c :: t) :
    before needle (c :: t) = c :: before needle t :=
  if_neg (mt List.isPrefixOf_iff_prefix.mp h)

/-- Behind it stands the needle, or nothing. -/
theorem isPrefix_behind_before (h : t = before needle t ++ r) : needle <+: r ∨ r = [] := by
  induction t with
  | nil => exact .inr (List.append_eq_nil_iff.mp h.symm).2
  | cons c t ih =>
    by_cases hstart : needle <+: c :: t
    · rw [before_of_isPrefix hstart, List.nil_append] at h
      exact .inl (h ▸ hstart)
    · rw [before_cons_of_not_isPrefix hstart, List.cons_append] at h
      exact ih (List.cons.inj h).2

/-- Within it the needle starts nowhere, not even to go on behind it. -/
theorem not_isPrefix_within_before (h : t = s ++ r) (hs : s.length < (before needle t).length) :
    ¬ needle <+: r := by
  induction t generalizing s with
  | nil => exact absurd hs (Nat.not_lt_zero _)
  | cons c t ih =>
    by_cases hstart : needle <+: c :: t
    · rw [before_of_isPrefix hstart] at hs
      exact absurd hs (Nat.not_lt_zero _)
    · rw [before_cons_of_not_isPrefix hstart, List.length_cons] at hs
      cases s with
      | nil =>
        rw [List.nil_append] at h
        rwa [← h]
      | cons d s =>
        obtain ⟨_, ht⟩ := List.cons.inj h
        exact ih ht (Nat.lt_of_succ_lt_succ hs)

theorem not_isInfix_before (hne : needle ≠ []) (t : Text) : ¬ needle <:+: before needle t := by
  rintro ⟨s, u, hb⟩
  obtain ⟨r, hr⟩ := before_prefix needle t
  have ht : t = s ++ (needle ++ (u ++ r)) := by
    rw [← hr, ← hb, List.append_assoc, List.append_assoc]
  have hlength : s.length < (before needle t).length := by
    have hpos := List.length_pos_iff.mpr hne
    rw [← hb, List.length_append, List.length_append]
    omega
  exact not_isPrefix_within_before ht hlength (List.prefix_append needle _)

/-! ## By offsets -/

/-- Between two boundaries of a text stands a piece of it. -/
theorem exists_between {u : Text} (hu : t.from? first = some u) (hr : t.from? n = some r)
    (hle : first ≤ n) : ∃ s, u = s ++ r ∧ n = first + s.size := by
  obtain ⟨p, hp, rfl⟩ := from?_eq_some_iff.mp hu
  obtain ⟨q, hq, rfl⟩ := from?_eq_some_iff.mp hr
  rcases List.append_eq_append_iff.mp (hp.symm.trans hq) with ⟨s, rfl, hs⟩ | ⟨s, rfl, hs⟩
  · exact ⟨s, hs, size_append p s⟩
  · rw [size_append] at hle
    cases s with
    | nil => exact ⟨[], by simpa using hs.symm, by simp⟩
    | cons c s =>
      have := c.utf8Size_pos
      rw [size_cons] at hle
      omega

/-- Of two initial pieces the one of fewer bytes has fewer characters. -/
theorem length_lt_of_size_lt {b : Text} (hs : s <+: t) (hb : b <+: t) (h : s.size < b.size) :
    s.length < b.length := by
  rcases Nat.lt_or_ge s.length b.length with hlt | hge
  · exact hlt
  · have := size_le_of_isPrefix (List.prefix_of_prefix_length_le hb hs hge)
    omega

/-- Before the offset of the needle it starts at no boundary. -/
theorem not_startsAt_within_before (hr : t.from? first = some r) (hle : first ≤ n)
    (hlt : n < first + (before needle r).size) : ¬ t.StartsAt needle n := by
  rintro ⟨u, hu, hneedle⟩
  obtain ⟨s, hs, rfl⟩ := exists_between hr hu hle
  have hbefore : before needle r <+: r := before_prefix needle r
  have hlength : s.length < (before needle r).length :=
    length_lt_of_size_lt ⟨u, hs.symm⟩ hbefore (by omega)
  exact not_isPrefix_within_before hs hlength hneedle

theorem firstFrom_before (needle : Text) (hr : t.from? first = some r) :
    t.FirstFrom needle first (first + (before needle r).size) := by
  obtain ⟨u, hu⟩ := before_prefix needle r
  have hbehind : t.from? (first + (before needle r).size) = some u := by
    obtain ⟨p, rfl, rfl⟩ := from?_eq_some_iff.mp hr
    refine from?_eq_some_iff.mpr ⟨p ++ before needle r, ?_, (size_append _ _).symm⟩
    rw [List.append_assoc, hu]
  rcases isPrefix_behind_before hu.symm with hneedle | rfl
  · exact .found (Nat.le_add_right _ _) ⟨u, hbehind, hneedle⟩
      fun n hle hlt => not_startsAt_within_before hr hle hlt
  · have hend : first + (before needle r).size = t.size := by
      rw [size_of_from? hbehind, size_nil, Nat.add_zero]
    -- At the end of the text an empty needle is found like anywhere else.
    by_cases hempty : needle = []
    · exact .found (Nat.le_add_right _ _) ⟨[], hbehind, hempty ▸ List.nil_prefix⟩
        fun n hle hlt => not_startsAt_within_before hr hle hlt
    · rw [hend]
      refine .absent fun n hle hstarts => ?_
      obtain ⟨v, hv, hneedle⟩ := hstarts
      have hpos : 0 < v.size := size_pos (by
        rintro rfl
        exact hempty (List.prefix_nil.mp hneedle))
      have hsize := size_of_from? hv
      exact not_startsAt_within_before hr hle (by omega) ⟨v, hv, hneedle⟩

end Text

/-! ## Bytes -/

namespace Encoding.Utf8

/-- The first byte of a character is no continuation byte, and the others are. -/
theorem Written.exists_lead {n : Nat} {bytes : Bytes} (h : Written n bytes) :
    ∃ a more, bytes = a :: more ∧ ¬ IsTail a ∧ ∀ b ∈ more, IsTail b := by
  have hlead : ∀ a : UInt8, a.toNat < 0x80 ∨ 0xC0 ≤ a.toNat → ¬ IsTail a := by
    rintro a ha ⟨hlo, hhi⟩
    omega
  cases h with
  | one ha => exact ⟨_, [], rfl, hlead _ (.inl ha), by simp⟩
  | two ha hb => exact ⟨_, _, rfl, hlead _ (.inr ha.1), by simpa using hb⟩
  | three ha hb hc =>
    refine ⟨_, _, rfl, hlead _ (.inr (by omega)), ?_⟩
    simp [hb, hc]
  | four ha hb hc hd =>
    refine ⟨_, _, rfl, hlead _ (.inr (by omega)), ?_⟩
    simp [hb, hc, hd]

end Encoding.Utf8

namespace Utf

open Encoding.Utf8

variable {needle t r : Text} {n : Nat}

theorem not_isTail_of_cons_isPrefix {a : UInt8} {bytes : Bytes} (hne : needle ≠ [])
    (h : utf8.encode needle <+: a :: bytes) : ¬ IsTail a := by
  obtain ⟨c, u, rfl⟩ := List.exists_cons_of_ne_nil hne
  obtain ⟨lead, more, hc, hlead, _⟩ := (written_utf8EncodeChar c).exists_lead
  have hencode : utf8.encode (c :: u) = lead :: (more ++ utf8.encode u) := by
    change String.utf8EncodeChar c ++ utf8.encode u = _
    rw [hc, List.cons_append]
  rw [hencode] at h
  rw [← (List.cons_prefix_cons.mp h).1]
  exact hlead

theorem exists_isTail_of_splits (h : t.Splits n) :
    ∃ a bytes, (utf8.encode t).drop n = a :: bytes ∧ IsTail a := by
  obtain ⟨s, c, u, rfl, hfirst, hlast⟩ := h
  obtain ⟨k, rfl⟩ := Nat.exists_eq_add_of_lt hfirst
  obtain ⟨lead, more, hc, _, htail⟩ := (written_utf8EncodeChar c).exists_lead
  have hencode : utf8.encode (s ++ c :: u) =
      utf8.encode s ++ lead :: (more ++ utf8.encode u) := by
    rw [encode_append]
    change _ ++ (String.utf8EncodeChar c ++ utf8.encode u) = _
    rw [hc, List.cons_append]
  have hk : k < more.length := by
    have hlength := String.length_utf8EncodeChar c
    rw [hc, List.length_cons] at hlength
    omega
  have hdrop : (utf8.encode (s ++ c :: u)).drop (s.size + k + 1) =
      more.drop k ++ utf8.encode u := by
    rw [hencode, ← length_encode_utf8, Nat.add_assoc, List.drop_length_add_append,
      List.drop_succ_cons, List.drop_append_of_le_length (Nat.le_of_lt hk)]
  rw [hdrop, List.drop_eq_getElem_cons hk]
  exact ⟨_, _, rfl, htail _ (List.getElem_mem hk)⟩

/-- The bytes of a text go on with those of a needle where the text goes on with the needle,
and nowhere else. -/
theorem encode_isPrefix_drop_iff (hne : needle ≠ []) :
    utf8.encode needle <+: (utf8.encode t).drop n ↔ t.StartsAt needle n := by
  constructor
  · intro h
    have hle : n ≤ t.size := by
      have hlength := h.length_le
      rw [List.length_drop, length_encode_utf8, length_encode_utf8] at hlength
      have := Text.size_pos hne
      omega
    by_cases hboundary : t.IsBoundary n
    · obtain ⟨r, hr⟩ := Option.isSome_iff_exists.mp hboundary
      rw [drop_encode_utf8 hr, encode_isPrefix_iff] at h
      exact ⟨r, hr, h⟩
    · obtain ⟨a, bytes, hdrop, htail⟩ :=
        exists_isTail_of_splits (Text.splits_of_not_isBoundary hboundary hle)
      rw [hdrop] at h
      exact absurd htail (not_isTail_of_cons_isPrefix hne h)
  · rintro ⟨r, hr, h⟩
    rw [drop_encode_utf8 hr]
    exact utf8.encode_isPrefix_iff.mpr h

end Utf

namespace Cursor

variable {c d : Cursor} {needle : Text}

theorem firstFrom_offset_take (c : Cursor) (needle : Text) :
    c.input.FirstFrom needle c.offset (c.take (.till needle)).2.offset := by
  rw [offset_take]
  exact Text.firstFrom_before needle c.from?_offset

theorem check_literal_of_startsAt (h : c.input.StartsAt needle c.offset) :
    c.check (.literal needle) = (.ok needle, c.advance needle.length) := by
  obtain ⟨r, hr, hneedle⟩ := h
  obtain rfl := Option.some.inj (hr.symm.trans c.from?_offset)
  exact check_literal_of_isPrefix hneedle

theorem check_literal_of_not_startsAt (h : ¬ c.input.StartsAt needle c.offset) :
    ∃ e, c.check (.literal needle) = (.error e, c) :=
  check_literal_of_not_isPrefix fun hneedle => h ⟨c.remaining, c.from?_offset, hneedle⟩

/-- Behind the run the needle can be taken, or the text has ended without it. -/
theorem literal_behind_till (c : Cursor) (needle : Text) :
    let after := (c.take (.till needle)).2
    after.check (.literal needle) = (.ok needle, after.advance needle.length) ∨
      after.isEof = true ∧ ∀ n, c.offset ≤ n → ¬ c.input.StartsAt needle n := by
  intro after
  have hfirst : c.input.FirstFrom needle c.offset after.offset := c.firstFrom_offset_take needle
  generalize hoffset : after.offset = stop at hfirst
  cases hfirst with
  | found _ hstarts _ =>
    rw [← hoffset] at hstarts
    exact .inl (check_literal_of_startsAt hstarts)
  | absent hnone => exact .inr ⟨(isEof_iff after).mpr (Nat.le_of_eq hoffset.symm), hnone⟩

/-- The run has nothing to take where the needle stands, and at the end of the text. -/
theorem take_till_of_isPrefix (h : needle <+: c.remaining ∨ c.remaining = []) :
    c.take (.till needle) = ([], c) := by
  have hpiece : Run.piece c.mode c.remaining (.till needle) = [] := by
    rcases h with h | h
    · exact Text.before_of_isPrefix h
    · rw [h]
      rfl
  rw [take, hpiece]
  exact congrArg (Prod.mk []) c.advance_zero

/-- At no offset before the run ends do the bytes of the text go on with those of the
needle. -/
theorem not_encode_isPrefix_before_take {n : Nat} (hle : c.offset ≤ n)
    (hlt : n < (c.take (.till needle)).2.offset) :
    ¬ Utf.utf8.encode needle <+: (Utf.utf8.encode c.input).drop n := by
  -- An empty needle stands everywhere, but then the run takes nothing.
  by_cases hempty : needle = []
  · rw [hempty, take_till_of_isPrefix (.inl List.nil_prefix)] at hlt
    exact absurd hlt (Nat.not_lt.mpr hle)
  · rw [Utf.encode_isPrefix_drop_iff hempty]
    rw [offset_take] at hlt
    exact Text.not_startsAt_within_before c.from?_offset hle hlt

/-- A run till a needle ends at the first offset from the cursor on where the text goes on
with the needle, or at the end where there is none. So the needle can be taken there, or the
text has ended and starts with it nowhere from the cursor on. It can be taken at no place
that was passed, and what was passed does not contain it; nor do the bytes of the text go on
with its bytes at an offset before. An empty needle has nothing in front of it, and neither
has any needle in front of which the cursor stands already. The bare byte offset ends in the
same place, and so does a scan from any boundary of a text. -/
theorem till_stops_at_first (c : Cursor) (needle : Text) :
    let passed := (c.take (.till needle)).1
    let after := (c.take (.till needle)).2
    (∀ stop, c.input.FirstFrom needle c.offset stop ↔ stop = after.offset) ∧
    (after.check (.literal needle) = (.ok needle, after.advance needle.length) ∨
      after.isEof = true ∧ ∀ n, c.offset ≤ n → ¬ c.input.StartsAt needle n) ∧
    (∀ d : Cursor, d.input = c.input → c.offset ≤ d.offset → d.offset < after.offset →
      ∃ e, d.check (.literal needle) = (.error e, d)) ∧
    (needle ≠ [] → ¬ needle <:+: passed) ∧
    (∀ n, c.offset ≤ n → n < after.offset →
      ¬ Utf.utf8.encode needle <+: (Utf.utf8.encode c.input).drop n) ∧
    c.take (.till []) = ([], c) ∧
    after.take (.till needle) = ([], after) ∧
    c.bytes.take? (.till needle) = some (passed, after.bytes) ∧
    ∀ mode t offset, t.IsBoundary offset → ∃ d,
      (start mode t).setPosition offset = (.ok (), d) ∧
      OffsetScan.skipTill t offset needle = (d.take (.till needle)).2.offset := by
  intro passed after
  have hfirst : c.input.FirstFrom needle c.offset after.offset := c.firstFrom_offset_take needle
  have happend : passed ++ after.remaining = c.remaining := c.append_remaining_take _
  refine ⟨?_, c.literal_behind_till needle, ?_, fun hne => Text.not_isInfix_before hne _,
    fun n => not_encode_isPrefix_before_take, take_till_of_isPrefix (.inl List.nil_prefix),
    take_till_of_isPrefix (Text.isPrefix_behind_before happend.symm), c.take?_bytes _, ?_⟩
  · exact fun stop => ⟨hfirst.unique, fun h => h ▸ hfirst⟩
  · intro d hinput hle hlt
    have hoffset : after.offset = c.offset + (Text.before needle c.remaining).size :=
      c.offset_take _
    rw [hoffset] at hlt
    have hnot := Text.not_startsAt_within_before c.from?_offset hle hlt
    rw [← hinput] at hnot
    exact check_literal_of_not_startsAt hnot
  · intro mode t offset hboundary
    obtain ⟨d, rfl, rfl, rfl⟩ := exists_of_isBoundary mode hboundary
    exact ⟨d, setPosition_offset rfl rfl, (OffsetScan.offset_take_eq d (.till needle)).symm⟩

/-- The needle overlaps itself, and a beginning of it comes before a character of two
bytes. -/
theorem till_stops_at_first_behind_beginning :
    let c := start .ascii ['a', 'b', 'a', 'é', 'a', 'b', 'a', 'b', 'a']
    let needle : Text := ['a', 'b', 'a', 'b']
    c.input.FirstFrom needle 0 5 ∧ ¬ needle <:+: (c.take (.till needle)).1 ∧
      ∃ e, (c.advance 2).check (.literal needle) = (.error e, c.advance 2) := by
  intro c needle
  obtain ⟨hfirst, _, hbefore, hpassed, _⟩ := till_stops_at_first c needle
  exact ⟨(hfirst 5).mpr (by decide), hpassed (by decide),
    hbefore (c.advance 2) rfl (by decide) (by decide)⟩

end Cursor

end LexScan
