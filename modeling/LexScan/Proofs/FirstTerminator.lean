import LexScan.Proofs.FirstOccurrence
import LexScan.Proofs.Positions

/-!
# The first terminator

A terminator is looked for by single break characters, and measured where one was found by
looking at two characters. Both agree: a terminator starts exactly at the break characters,
so the place that is found is the least boundary of the text at which one starts, and the
measuring there cannot fail. The range that comes out of it ends at a boundary, never
between CR and LF.
-/

namespace LexScan.LineBreakMode

/-- The number of bytes of the terminator that a text starts with. -/
def terminatorSize? (mode : LineBreakMode) (t : Text) : Option Nat :=
  (mode.terminator? t).map Text.size

/-- The least boundary of a text at which a terminator starts, and its number of bytes. -/
structure FirstTerminator (mode : LineBreakMode) (t : Text) (first bytes : Nat) : Prop where
  starts : ∃ r, t.from? first = some r ∧ mode.terminatorSize? r = some bytes
  least : ∀ n r, t.from? n = some r → mode.terminatorSize? r ≠ none → first ≤ n

variable {mode : LineBreakMode} {t r terminator : Text} {n first last bytes : Nat}

/-! ## Two characters and one -/

/-- Two characters show a terminator exactly where the first of them is a break character. -/
theorem terminator?_eq_none_iff :
    mode.terminator? t = none ↔ ∀ c ∈ t.head?, mode.isBreak c = false := by
  cases t with
  | nil => simp [terminator?]
  | cons c u =>
    constructor
    · rintro hnone d ⟨⟩
      cases hbreak : mode.isBreak c with
      | false => rfl
      | true =>
        obtain ⟨terminator, hsome⟩ := exists_terminator? hbreak u
        rw [hnone] at hsome
        cases hsome
    · intro hhead
      cases hfound : mode.terminator? (c :: u) with
      | none => rfl
      | some terminator =>
        obtain ⟨rest, ht, hend⟩ := terminator?_eq_some_iff.mp hfound
        obtain ⟨d, v, rfl, hbreak⟩ := hend.eq_cons
        obtain ⟨rfl, _⟩ := List.cons.inj ht
        rw [hhead c rfl] at hbreak
        cases hbreak

/-! ## The boundaries of a text -/

/-- Within the body of the first line no terminator starts. -/
theorem terminator?_within_body (hr : t.from? n = some r) (hn : n < (mode.body t).size) :
    mode.terminator? r = none := by
  obtain ⟨s, rfl, hsize⟩ := Text.exists_between hr (mode.from?_body t) (Nat.le_of_lt hn)
  obtain ⟨p, ht, rfl⟩ := Text.from?_eq_some_iff.mp hr
  have hbody : mode.body t = p ++ s := by
    have happend := (mode.body_append_afterBody t).trans ht
    rw [← List.append_assoc] at happend
    exact List.append_cancel_right happend
  -- What is left of the body starts the text from the boundary on, and is not empty.
  rw [terminator?_eq_none_iff]
  intro c hc
  cases s with
  | nil =>
    rw [Text.size_nil, Nat.add_zero] at hsize
    omega
  | cons d s =>
    obtain rfl : d = c := Option.some.inj hc
    have hmem : d ∈ mode.body t := by
      rw [hbody]
      exact List.mem_append_right p List.mem_cons_self
    exact isBreak_of_mem_body hmem

/-- Where the first line has no terminator, none starts anywhere in the text. -/
theorem terminator?_of_unterminated (h : mode.terminator? (mode.afterBody t) = none)
    (hr : t.from? n = some r) : mode.terminator? r = none := by
  rcases Nat.lt_or_ge n (mode.body t).size with hwithin | hbehind
  · exact terminator?_within_body hr hwithin
  · have hsize := Text.size_of_from? hr
    rw [body_eq_self h] at hbehind
    cases r with
    | nil => rfl
    | cons c u =>
      have := Text.size_pos (List.cons_ne_nil c u)
      omega

/-! ## The first terminator -/

theorem FirstTerminator.unique {first' bytes' : Nat} (h : mode.FirstTerminator t first bytes)
    (h' : mode.FirstTerminator t first' bytes') : first' = first ∧ bytes' = bytes := by
  obtain ⟨r, hr, hbytes⟩ := h.starts
  obtain ⟨r', hr', hbytes'⟩ := h'.starts
  have hle := h.least first' r' hr' (by simp [hbytes'])
  have hle' := h'.least first r hr (by simp [hbytes])
  obtain rfl : first' = first := Nat.le_antisymm hle' hle
  obtain rfl : r' = r := Option.some.inj (hr'.symm.trans hr)
  exact ⟨rfl, Option.some.inj (hbytes'.symm.trans hbytes)⟩

theorem firstTerminator_body (h : mode.terminator? (mode.afterBody t) = some terminator) :
    mode.FirstTerminator t (mode.body t).size terminator.size where
  starts := ⟨mode.afterBody t, mode.from?_body t, congrArg (Option.map Text.size) h⟩
  least n r hr hfound := by
    by_contra hless
    have hnone := terminator?_within_body hr (Nat.lt_of_not_le hless)
    exact hfound (Option.map_eq_none_iff.mpr hnone)

/-- What is found is the least boundary at which a terminator starts, and its end. -/
theorem findTerminator?_eq_some_iff :
    mode.findTerminator? t = some (first, last) ↔
      ∃ bytes, mode.FirstTerminator t first bytes ∧ last = first + bytes := by
  constructor
  · intro h
    obtain ⟨terminator, hfound, hrange⟩ := Option.map_eq_some_iff.mp h
    obtain ⟨rfl, rfl⟩ := Prod.mk.inj hrange
    exact ⟨terminator.size, firstTerminator_body hfound, rfl⟩
  · rintro ⟨bytes, hfirst, rfl⟩
    cases h : mode.terminator? (mode.afterBody t) with
    | none =>
      obtain ⟨r, hr, hbytes⟩ := hfirst.starts
      rw [terminatorSize?, terminator?_of_unterminated h hr] at hbytes
      cases hbytes
    | some terminator =>
      obtain ⟨rfl, rfl⟩ := (firstTerminator_body h).unique hfirst
      rw [findTerminator?, h, Option.map_some]

/-- Nothing is found exactly if no terminator starts at any boundary. -/
theorem findTerminator?_eq_none_iff :
    mode.findTerminator? t = none ↔
      ∀ n r, t.from? n = some r → mode.terminatorSize? r = none := by
  constructor
  · intro h n r hr
    have hnone := Option.map_eq_none_iff.mp h
    exact Option.map_eq_none_iff.mpr (terminator?_of_unterminated hnone hr)
  · intro h
    have hnone := Option.map_eq_none_iff.mp (h _ _ (mode.from?_body t))
    exact Option.map_eq_none_iff.mpr hnone

/-- A break character is found where the first terminator starts, or neither is found. -/
theorem failAt?_eq_findTerminator? (mode : LineBreakMode) (t : Text) :
    t.failAt? (!mode.isBreak ·) = (mode.findTerminator? t).map Prod.fst := by
  rw [Text.failAt?_isBreak, findTerminator?]
  cases hafter : mode.afterBody t with
  | nil => rfl
  | cons c u =>
    obtain ⟨terminator, hfound⟩ := exists_terminator? (isBreak_of_afterBody hafter) u
    rw [hfound]
    rfl

/-- The text before, within and behind the range that is found. -/
theorem exists_of_findTerminator? (h : mode.findTerminator? t = some (first, last)) :
    ∃ body terminator rest, t = body ++ terminator ++ rest ∧ mode.BreakFree body ∧
      mode.IsTerminator terminator rest ∧ first = body.size ∧
      last = Text.size (body ++ terminator) := by
  obtain ⟨terminator, hfound, hrange⟩ := Option.map_eq_some_iff.mp h
  obtain ⟨rfl, rfl⟩ := Prod.mk.inj hrange
  obtain ⟨rest, hafter, hend⟩ := terminator?_eq_some_iff.mp hfound
  refine ⟨mode.body t, terminator, rest, ?_, mode.breakFree_body t, hend, rfl,
    (Text.size_append _ _).symm⟩
  rw [List.append_assoc, ← hafter, body_append_afterBody]

/-- The first terminator is found at the least boundary of the text at which one starts, and
up to its own number of bytes behind; nothing is found only if none starts at any boundary.
The range ends at a boundary within the text, not between CR and LF. It holds one terminator,
and no character before it ends a line. A search for a single break character comes to the
same place, so that the terminator can be cut off there and its end computed with offsets of
64 bits. -/
theorem findTerminator?_finds_first (mode : LineBreakMode) (t : Text) :
    (∀ first last, mode.findTerminator? t = some (first, last) ↔
      ∃ bytes, mode.FirstTerminator t first bytes ∧ last = first + bytes) ∧
    (∀ first last, mode.findTerminator? t = some (first, last) →
      t.IsBoundary last ∧ last ≤ t.size ∧ t.IsStop last ∧
      ∃ body terminator rest, t = body ++ terminator ++ rest ∧ mode.BreakFree body ∧
        mode.IsTerminator terminator rest ∧ first = body.size ∧
        last = Text.size (body ++ terminator)) ∧
    (mode.findTerminator? t = none ↔
      ∀ n r, t.from? n = some r → mode.terminatorSize? r = none) ∧
    t.failAt? (!mode.isBreak ·) = (mode.findTerminator? t).map Prod.fst ∧
    (t.size < 2 ^ 64 → OffsetScan.terminatorAt? mode t = some (mode.findTerminator? t)) := by
  refine ⟨fun first last => findTerminator?_eq_some_iff, ?_, findTerminator?_eq_none_iff,
    mode.failAt?_eq_findTerminator? t, OffsetScan.terminatorAt?_eq mode⟩
  intro first last h
  obtain ⟨body, terminator, rest, ht, hbody, hend, hfirst, hlast⟩ := exists_of_findTerminator? h
  have hrest : t.from? last = some rest :=
    Text.from?_eq_some_iff.mpr ⟨body ++ terminator, ht, hlast⟩
  have hboundary : t.IsBoundary last := Option.isSome_iff_exists.mpr ⟨rest, hrest⟩
  exact ⟨hboundary, hboundary.le_size, ⟨body ++ terminator, rest, ht, hlast, hend.not_divided body⟩,
    body, terminator, rest, ht, hbody, hend, hfirst, hlast⟩

/-- Behind a character of two bytes a CRLF is found whole, although an LF and a CR stand
further on. -/
theorem findTerminator?_finds_first_of_crlf :
    let t : Text := ['ä', '\r', '\n', '\n', '\r']
    ascii.FirstTerminator t 2 2 ∧ t.IsStop 4 ∧
      OffsetScan.terminatorAt? ascii t = some (some (2, 4)) := by
  intro t
  obtain ⟨hsome, hrange, _, _, hcomputed⟩ := findTerminator?_finds_first ascii t
  have hfound : ascii.findTerminator? t = some (2, 4) := by decide
  obtain ⟨bytes, hfirst, hlast⟩ := (hsome 2 4).mp hfound
  obtain rfl : bytes = 2 := by omega
  exact ⟨hfirst, (hrange 2 4 hfound).2.2.1, hfound ▸ hcomputed (by decide)⟩

end LexScan.LineBreakMode
