import LexScan.Proofs.ByteCursor.Simulation
import LexScan.Proofs.OffsetAgreement
import Mathlib.Algebra.Group.Nat.Defs

/-!
# Scanning with offsets of 64 bits

The offset scanners once more, as they compute: an index is looked for in the text from the
offset on and added to the offset. Each sum has to fit into 64 bits and each cut has to be in
range, or there is no answer. For a text of less than 2^63 bytes there always is one,
whatever 64 bits say as an offset, and it is the one of `OffsetScan`.

Past the end of the text and inside a character there is nothing to scan. Everywhere else a
scanner ends at a boundary that is not before its offset, with the text between the two.
-/

namespace LexScan

namespace Text

/-- A byte offset behind the first byte of a character and before its end. -/
def Splits (t : Text) (n : Nat) : Prop :=
  ∃ (s : Text) (c : Char) (u : Text), t = s ++ c :: u ∧ s.size < n ∧ n < s.size + c.utf8Size

theorem size_le_of_isPrefix {s t : Text} (h : s <+: t) : s.size ≤ t.size := by
  obtain ⟨u, rfl⟩ := h
  rw [size_append]
  omega

theorem IsBoundary.not_splits {t : Text} {n : Nat} (h : t.IsBoundary n) : ¬ t.Splits n := by
  rintro ⟨s, c, u, ht, hfirst, hlast⟩
  obtain ⟨r, hr⟩ := Option.isSome_iff_exists.mp h
  obtain ⟨p, hp, rfl⟩ := from?_eq_some_iff.mp hr
  rcases List.append_eq_append_iff.mp (hp.symm.trans ht) with ⟨v, rfl, _⟩ | ⟨v, rfl, hv⟩
  · rw [size_append] at hfirst
    omega
  · cases v with
    | nil =>
      rw [List.append_nil] at hfirst
      omega
    | cons d v =>
      obtain ⟨rfl, _⟩ := List.cons.inj hv
      rw [size_append, size_cons] at hlast
      omega

theorem splits_of_not_isBoundary {t : Text} {n : Nat} (h : ¬ t.IsBoundary n)
    (hle : n ≤ t.size) : t.Splits n := by
  induction t generalizing n with
  | nil =>
    obtain rfl := Nat.le_zero.mp hle
    exact absurd rfl h
  | cons c t ih =>
    rw [size_cons] at hle
    rcases Nat.lt_or_ge n c.utf8Size with hlt | hge
    · have hpos : n ≠ 0 := by
        rintro rfl
        exact h rfl
      exact ⟨[], c, t, rfl, Nat.pos_of_ne_zero hpos, by simpa using hlt⟩
    · obtain ⟨m, rfl⟩ := Nat.exists_eq_add_of_le hge
      rw [IsBoundary, from?_cons_add] at h
      obtain ⟨s, d, u, rfl, hfirst, hlast⟩ := ih h (by omega)
      refine ⟨c :: s, d, u, rfl, ?_, ?_⟩
      · rw [size_cons]
        omega
      · rw [size_cons]
        omega

/-- The boundaries are the offsets within the text that are not inside a character. -/
theorem not_isBoundary_iff {t : Text} {n : Nat} :
    ¬ t.IsBoundary n ↔ t.size < n ∨ t.Splits n := by
  constructor
  · intro h
    rcases Nat.lt_or_ge t.size n with hlt | hle
    · exact .inl hlt
    · exact .inr (splits_of_not_isBoundary h hle)
  · rintro (hlt | hsplits) h
    · exact absurd h.le_size (Nat.not_le.mpr hlt)
    · exact h.not_splits hsplits

end Text

namespace OffsetScan

open Cursor

/-- The sum of two offsets, if 64 bits hold it. -/
def sum? (m n : Nat) : Option Nat := if m + n < 2 ^ 64 then some (m + n) else none

/-- The offset of an index that was found in the text from `offset` on, or that of the end
of the text where none was. -/
def offsetOf? (offset : Nat) (tail : Text) : Option Nat → Option Nat
  | some index => sum? offset index
  | none => sum? offset tail.size

/-- Start and end of the first terminator, cut off at the first break character. -/
def terminatorAt? (mode : LineBreakMode) (t : Text) : Option (Option (Nat × Nat)) :=
  match t.failAt? (!mode.isBreak ·) with
  | none => some none
  | some first => do
      match mode.terminator? (← t.from? first) with
      | none => some none
      | some terminator => some (some (first, ← sum? first terminator.size))

/-- The offset that the scanner of a run answers, if all sums and cuts can be made. -/
def skip? (mode : LineBreakMode) (t : Text) (offset : Nat) : Run → Option Nat
  | .satisfying test =>
      offsetOf? offset (rest t offset) ((rest t offset).failAt? test)
  | .till needle =>
      offsetOf? offset (rest t offset) (Text.needleAt? needle (rest t offset))
  | .restOfLine withTerminator => do
      match ← terminatorAt? mode (rest t offset) with
      | some (first, last) => sum? offset (if withTerminator then last else first)
      | none => sum? offset (rest t offset).size

/-- The text that the scanner of a run answers, if all sums and cuts can be made. -/
def text? (mode : LineBreakMode) (t : Text) (offset : Nat) (r : Run) : Option Text :=
  (skip? mode t offset r).map (stretch t offset)

/-- The needle, cut out of the text, if the cuts can be made. -/
def literal? (t : Text) (offset : Nat) (needle : Text) : Option (Except ScanError Text) :=
  match checkOffset t offset with
  | .error e => some (.error e)
  | .ok _ => do
      let tail ← t.from? offset
      match matchLiteral needle tail with
      | .ok found => some (.ok (← tail.until? found.size))
      | .error failure => some (.error ⟨failure, offset⟩)

/-- The offset behind the needle, if the cuts and the sum can be made. -/
def skipLiteral? (t : Text) (offset : Nat) (needle : Text) :
    Option (Except ScanError Nat) := do
  match ← literal? t offset needle with
  | .ok found => some (.ok (← sum? offset found.size))
  | .error e => some (.error e)

variable {t : Text} {offset : Nat}

/-! ## Sums -/

theorem sum?_eq {m n : Nat} (h : m + n < 2 ^ 64) : sum? m n = some (m + n) := if_pos h

theorem offsetOf?_eq {tail : Text} {index : Option Nat} {last : Nat}
    (h : index.elim (offset + tail.size) (offset + ·) = last) (hlast : last < 2 ^ 64) :
    offsetOf? offset tail index = some last := by
  subst h
  cases index with
  | some index => exact sum?_eq hlast
  | none => exact sum?_eq hlast

/-- An offset and what is left behind it stay within 64 bits. -/
theorem add_size_rest_lt (hsize : t.size < 2 ^ 63) (hoffset : offset < 2 ^ 64) :
    offset + (rest t offset).size < 2 ^ 64 := by
  cases h : t.from? offset with
  | some r =>
    have htotal := Text.size_of_from? h
    rw [rest, h, Option.getD_some]
    omega
  | none =>
    rw [rest, h, Option.getD_none, Text.size_nil]
    exact hoffset

theorem add_size_lt_of_isPrefix (hsize : t.size < 2 ^ 63) (hoffset : offset < 2 ^ 64)
    {piece : Text} (h : piece <+: rest t offset) : offset + piece.size < 2 ^ 64 := by
  have hall := add_size_rest_lt hsize hoffset
  have hpiece := Text.size_le_of_isPrefix h
  omega

theorem terminatorAt?_eq (mode : LineBreakMode) (hsize : t.size < 2 ^ 64) :
    terminatorAt? mode t = some (mode.findTerminator? t) := by
  rw [terminatorAt?, LineBreakMode.findTerminator?, Text.failAt?_isBreak]
  cases hafter : mode.afterBody t with
  | nil => rfl
  | cons x u =>
    obtain ⟨terminator, hterminator⟩ :=
      LineBreakMode.exists_terminator? (LineBreakMode.isBreak_of_afterBody hafter) u
    have hcut := mode.from?_body t
    rw [hafter] at hcut
    have hsum : sum? (mode.body t).size terminator.size =
        some ((mode.body t).size + terminator.size) := by
      have htotal := Text.size_of_from? hcut
      have hstart := Text.size_le_of_isPrefix (LineBreakMode.terminator?_prefix hterminator)
      exact sum?_eq (by omega)
    simp [hcut, hterminator, hsum]

/-! ## Runs -/

theorem skip?_eq (mode : LineBreakMode) (hsize : t.size < 2 ^ 63) (hoffset : offset < 2 ^ 64)
    (r : Run) : skip? mode t offset r = some (skip mode t offset r) := by
  have hlast : skip mode t offset r < 2 ^ 64 := by
    rw [skip_eq_add_size]
    exact add_size_lt_of_isPrefix hsize hoffset (r.piece_prefix mode (rest t offset))
  cases r with
  | satisfying test =>
    refine offsetOf?_eq ?_ hlast
    rw [Text.size_elim_failAt?, skip_eq_add_size, Run.piece]
  | till needle =>
    refine offsetOf?_eq ?_ hlast
    rw [Text.size_elim_needleAt?, skip_eq_add_size, Run.piece]
  | restOfLine withTerminator =>
    have hall := add_size_rest_lt hsize hoffset
    rw [skip, skipRestOfLine] at hlast ⊢
    rw [skip?, terminatorAt?_eq mode (by omega)]
    cases h : mode.findTerminator? (rest t offset) with
    | some found =>
      rw [h] at hlast
      exact sum?_eq hlast
    | none => exact sum?_eq hall

theorem text?_eq (mode : LineBreakMode) (hsize : t.size < 2 ^ 63) (hoffset : offset < 2 ^ 64)
    (r : Run) : text? mode t offset r = some (text mode t offset r) := by
  rw [text?, skip?_eq mode hsize hoffset, text_eq_stretch]
  rfl

/-! ## Offsets that are no boundaries -/

theorem checkOffset_of_not_isBoundary (h : ¬ t.IsBoundary offset) :
    checkOffset t offset = .error ⟨.outOfRange, offset⟩ := if_neg h

theorem rest_of_not_isBoundary (h : ¬ t.IsBoundary offset) : rest t offset = [] := by
  rw [rest, Option.not_isSome_iff_eq_none.mp h]
  rfl

theorem piece_nil (mode : LineBreakMode) (r : Run) : r.piece mode [] = [] :=
  List.prefix_nil.mp (r.piece_prefix mode [])

theorem skip_of_not_isBoundary (h : ¬ t.IsBoundary offset) (mode : LineBreakMode) (r : Run) :
    skip mode t offset r = offset := by
  rw [skip_eq_add_size, rest_of_not_isBoundary h, piece_nil]
  rfl

theorem text_of_not_isBoundary (h : ¬ t.IsBoundary offset) (mode : LineBreakMode) (r : Run) :
    text mode t offset r = [] := by
  rw [text_eq_stretch, stretch, Text.slice?, Option.not_isSome_iff_eq_none.mp h]
  split <;> rfl

theorem literal_of_not_isBoundary (h : ¬ t.IsBoundary offset) (needle : Text) :
    literal t offset needle = .error ⟨.outOfRange, offset⟩ := by
  rw [literal, checkOffset_of_not_isBoundary h]
  rfl

theorem skipLiteral_of_not_isBoundary (h : ¬ t.IsBoundary offset) (needle : Text) :
    skipLiteral t offset needle = .error ⟨.outOfRange, offset⟩ := by
  rw [skipLiteral, literal_of_not_isBoundary h]
  rfl

/-! ## Literals -/

theorem literal?_eq (t : Text) (offset : Nat) (needle : Text) :
    literal? t offset needle = some (literal t offset needle) := by
  rw [literal?]
  by_cases h : t.IsBoundary offset
  · obtain ⟨c, rfl, _, rfl⟩ := exists_of_isBoundary .ascii h
    rw [checkOffset, if_pos h, literal_eq]
    cases hmatch : matchLiteral needle c.remaining with
    | ok found =>
      have hpiece : (Check.literal needle).piece c.mode c.remaining = .ok found := hmatch
      have hcut : c.remaining.until? found.size = some found := by
        obtain ⟨u, hu⟩ := matchLiteral_prefix hmatch
        rw [← hu, Text.until?_append]
      rw [check_of_ok hpiece]
      simp [c.from?_offset, hmatch, hcut]
    | error failure =>
      have hpiece : (Check.literal needle).piece c.mode c.remaining = .error failure := hmatch
      rw [check_of_error hpiece]
      simp [c.from?_offset, hmatch]
  · rw [checkOffset_of_not_isBoundary h, literal_of_not_isBoundary h]

theorem literal_isPrefix {needle found : Text} (h : literal t offset needle = .ok found) :
    found <+: rest t offset := by
  by_cases hoffset : t.IsBoundary offset
  · rw [literal, checkOffset, if_pos hoffset] at h
    simp only [bind, Except.bind] at h
    split at h
    · obtain rfl := Except.ok.inj h
      exact List.take_prefix _ _
    · split at h
      · cases h
      · cases h
  · rw [literal_of_not_isBoundary hoffset] at h
    cases h

theorem skipLiteral?_eq (hsize : t.size < 2 ^ 63) (hoffset : offset < 2 ^ 64) (needle : Text) :
    skipLiteral? t offset needle = some (skipLiteral t offset needle) := by
  rw [skipLiteral?, literal?_eq, skipLiteral]
  cases h : literal t offset needle with
  | error e => rfl
  | ok found =>
    have hlast := add_size_lt_of_isPrefix hsize hoffset (literal_isPrefix h)
    simp [sum?_eq hlast, Except.map]

/-! ## Boundaries -/

/-- From a boundary a scanner goes to a boundary, over the text that it answers. -/
theorem skip_of_isBoundary (h : t.IsBoundary offset) (mode : LineBreakMode) (r : Run) :
    offset ≤ skip mode t offset r ∧ skip mode t offset r ≤ t.size ∧
      t.IsBoundary (skip mode t offset r) ∧
      t.slice? offset (skip mode t offset r) = some (text mode t offset r) := by
  obtain ⟨c, rfl, rfl, rfl⟩ := exists_of_isBoundary mode h
  have hend : c.input.IsBoundary (skip c.mode c.input c.offset r) := by
    rw [← offset_take_eq]
    exact (c.take r).2.isBoundary_offset
  have hskip := skip_eq c r
  refine ⟨by omega, hend.le_size, hend, ?_⟩
  rw [text_eq, hskip]
  exact Text.slice?_of_prefix c.from?_offset (r.piece_prefix c.mode c.remaining)

/-- The offset scanners answer for every text of less than 2^63 bytes and every offset of 64
bits: no sum exceeds 64 bits and no cut is out of range. Past the end and inside a character
a run is empty and its offset stays, and the offset is refused as out of range where it has
to be one, at itself. From every other offset a run ends at a boundary, not before the offset
and not past the end, and its text is the slice between the two. -/
theorem scanners_total (mode : LineBreakMode) (t : Text) (offset : Nat)
    (hsize : t.size < 2 ^ 63) (hoffset : offset < 2 ^ 64) :
    (∀ r, skip? mode t offset r = some (skip mode t offset r) ∧
      text? mode t offset r = some (text mode t offset r)) ∧
    (∀ s, literal? t offset s = some (literalLogged t offset s).value ∧
      skipLiteral? t offset s = some (skipLiteralLogged t offset s).value) ∧
    (t.size < offset ∨ t.Splits offset →
      (∀ r, text mode t offset r = [] ∧ skip mode t offset r = offset) ∧
      checkOffset t offset = .error ⟨.outOfRange, offset⟩ ∧
      ∀ s, (literalLogged t offset s).value = .error ⟨.outOfRange, offset⟩ ∧
        (skipLiteralLogged t offset s).value = .error ⟨.outOfRange, offset⟩) ∧
    (¬ (t.size < offset ∨ t.Splits offset) → checkOffset t offset = .ok () ∧
      ∀ r, offset ≤ skip mode t offset r ∧ skip mode t offset r ≤ t.size ∧
        t.IsBoundary (skip mode t offset r) ∧
        t.slice? offset (skip mode t offset r) = some (text mode t offset r)) := by
  simp only [value_literalLogged, value_skipLiteralLogged, ← Text.not_isBoundary_iff,
    Decidable.not_not]
  refine ⟨fun r => ⟨skip?_eq mode hsize hoffset r, text?_eq mode hsize hoffset r⟩,
    fun s => ⟨literal?_eq t offset s, skipLiteral?_eq hsize hoffset s⟩, ?_, ?_⟩
  · intro h
    exact ⟨fun r => ⟨text_of_not_isBoundary h mode r, skip_of_not_isBoundary h mode r⟩,
      checkOffset_of_not_isBoundary h,
      fun s => ⟨literal_of_not_isBoundary h s, skipLiteral_of_not_isBoundary h s⟩⟩
  · intro h
    exact ⟨if_pos h, fun r => skip_of_isBoundary h mode r⟩

/-- The greatest offset of 64 bits, one inside a character, and one in front of it. -/
theorem scanners_total_around_character :
    let t : Text := ['é', 'a', '\n']
    skip? .unicode t (2 ^ 64 - 1) (.till []) = some (2 ^ 64 - 1) ∧
    (t.Splits 1 ∧ skip .ascii t 1 (.restOfLine true) = 1 ∧
      (skipLiteralLogged t 1 ['a']).value = .error ⟨.outOfRange, 1⟩) ∧
    t.slice? 0 (skip .ascii t 0 (.restOfLine true)) =
      some (text .ascii t 0 (.restOfLine true)) := by
  intro t
  have hsize : t.size < 2 ^ 63 := by decide
  have hsplits : t.Splits 1 := ⟨[], 'é', ['a', '\n'], rfl, by decide, by decide⟩
  obtain ⟨hgreatest, _, hpast, _⟩ := scanners_total .unicode t (2 ^ 64 - 1) hsize (by decide)
  obtain ⟨_, _, hinside, _⟩ := scanners_total .ascii t 1 hsize (by decide)
  obtain ⟨_, _, _, hfront⟩ := scanners_total .ascii t 0 hsize (by decide)
  have hzero : ¬ (t.size < 0 ∨ t.Splits 0) := by
    rw [← Text.not_isBoundary_iff]
    decide
  refine ⟨?_, ⟨hsplits, ((hinside (.inr hsplits)).1 _).2, ((hinside (.inr hsplits)).2.2 _).2⟩,
    ((hfront hzero).2 _).2.2.2⟩
  rw [(hgreatest _).1, ((hpast (.inl (by decide))).1 _).2]

end OffsetScan

end LexScan
