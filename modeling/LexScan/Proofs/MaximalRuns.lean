import LexScan.Proofs.ByteCursor.Simulation
import Mathlib.Data.List.SplitBy

/-!
# Runs reach as far as they can

A run of characters that pass a test is the longest piece in front of the cursor of which
every character passes it. So the character behind it fails the test, and a second run finds
nothing to take.

For a set of characters this makes a loop: the run inside the set, then the one outside it,
and so on to the end of the text. Only the first of these runs can be empty. Each other turn
takes a character at least, so the loop ends, and it cuts the text exactly where a character
inside the set and one outside it meet.
-/

namespace LexScan.Cursor

/-- A piece in front of a text that passes a test throughout and is no shorter than any
other such piece. -/
structure IsMaximalRun (test : Char → Bool) (t piece : Text) : Prop where
  isPrefix : piece <+: t
  all_pass : ∀ y ∈ piece, test y = true
  longest : ∀ q, q <+: t → (∀ y ∈ q, test y = true) → q.length ≤ piece.length

/-- The test for the characters inside a set or for those outside it. -/
def sideTest (s : CharSet) (inside : Bool) : CharTest := if inside then .oneOf s else .noneOf s

/-- Takes the run on one side of a set. -/
def takeSide (s : CharSet) (inside : Bool) (c : Cursor) : Text × Cursor :=
  c.take (.satisfying (sideTest s inside).accepts)

/-- Takes the runs on both sides of a set in turn until the end of the text; these are the
pieces, and the cursor behind the last of them. -/
inductive Alternates (s : CharSet) : Bool → Cursor → List Text → Cursor → Prop where
  | stop {inside : Bool} {c : Cursor} (heof : c.isEof = true) : Alternates s inside c [] c
  | turn {inside : Bool} {c last : Cursor} {pieces : List Text} (heof : c.isEof = false)
      (rest : Alternates s (!inside) (takeSide s inside c).2 pieces last) :
      Alternates s inside c ((takeSide s inside c).1 :: pieces) last

/-- Pieces that are not empty and lie inside and outside a set by turns. -/
inductive OnSides (s : CharSet) : Bool → List Text → Prop where
  | none (inside : Bool) : OnSides s inside []
  | piece {inside : Bool} {piece : Text} {more : List Text} (hne : piece ≠ [])
      (hside : ∀ y ∈ piece, s.contains y = inside) (hmore : OnSides s (!inside) more) :
      OnSides s inside (piece :: more)

variable {s : CharSet} {inside : Bool} {c last : Cursor} {pieces : List Text}
  {test : Char → Bool} {t piece : Text}

/-! ## One run -/

theorem isMaximalRun_takeWhile (test : Char → Bool) (t : Text) :
    IsMaximalRun test t (t.takeWhile test) where
  isPrefix := List.takeWhile_prefix test
  all_pass := fun _ hy => List.all_eq_true.mp List.all_takeWhile _ hy
  longest := by
    rintro q ⟨rest, rfl⟩ hall
    rw [List.takeWhile_append_of_pos hall, List.length_append]
    exact Nat.le_add_right _ _

theorem IsMaximalRun.unique {piece' : Text} (h : IsMaximalRun test t piece)
    (h' : IsMaximalRun test t piece') : piece' = piece :=
  (List.prefix_of_prefix_length_le h'.isPrefix h.isPrefix
    (h.longest _ h'.isPrefix h'.all_pass)).eq_of_length_le
    (h'.longest _ h.isPrefix h.all_pass)

theorem remaining_take_satisfying (c : Cursor) (test : Char → Bool) :
    (c.take (.satisfying test)).2.remaining = c.remaining.dropWhile test :=
  c.remaining_advance_takeWhile test

theorem not_test_behind_run {y : Char} (h : (c.take (.satisfying test)).2.peekChar = some y) :
    test y = false := by
  rw [peekChar, remaining_take_satisfying] at h
  have hhead := List.head?_dropWhile_not test c.remaining
  rw [h] at hhead
  simpa using hhead

/-- A run is empty exactly if the next character fails the test or there is none. -/
theorem take_satisfying_eq_nil_iff :
    (c.take (.satisfying test)).1 = [] ↔ ∀ y, c.peekChar = some y → test y = false := by
  change c.remaining.takeWhile test = [] ↔ ∀ y, c.remaining.head? = some y → test y = false
  cases c.remaining with
  | nil => simp
  | cons x t => cases hx : test x <;> simp [hx]

theorem eq_of_take_eq_nil {r : Run} (h : (c.take r).1 = []) : c.take r = ([], c) := by
  have hafter : (c.take r).2 = c.advance (c.take r).1.length := rfl
  rw [h] at hafter
  exact Prod.ext h (hafter.trans c.advance_zero)

/-! ## Both sides of a set -/

theorem accepts_sideTest (s : CharSet) (inside : Bool) (x : Char) :
    (sideTest s inside).accepts x = (s.contains x == inside) := by
  cases inside <;> cases h : s.contains x <;> simp [sideTest, CharTest.accepts, h]

theorem takeSide_eq_nil_iff :
    (takeSide s inside c).1 = [] ↔ ∀ y, c.peekChar = some y → s.contains y = !inside := by
  rw [takeSide, take_satisfying_eq_nil_iff]
  simp only [accepts_sideTest]
  constructor
  · intro h y hy
    have := h y hy
    cases hs : s.contains y <;> cases inside <;> simp_all
  · intro h y hy
    simp [h y hy]

theorem exists_peekChar (heof : c.isEof = false) : ∃ y, c.peekChar = some y := by
  cases h : c.remaining with
  | nil =>
    rw [isEof, h] at heof
    cases heof
  | cons y t => exact ⟨y, congrArg List.head? h⟩

/-- Where the text goes on, the run on one side of a set is empty exactly if that on the
other side is not. -/
theorem takeSide_eq_nil_iff_not (heof : c.isEof = false) :
    (takeSide s inside c).1 = [] ↔ (takeSide s (!inside) c).1 ≠ [] := by
  obtain ⟨y, hy⟩ := exists_peekChar heof
  simp only [ne_eq, takeSide_eq_nil_iff, hy, Option.some.injEq, forall_eq']
  cases s.contains y <;> cases inside <;> simp

theorem side_of_mem_takeSide {y : Char} (hy : y ∈ (takeSide s inside c).1) :
    s.contains y = inside := by
  have hpass := (isMaximalRun_takeWhile _ c.remaining).all_pass y hy
  rw [accepts_sideTest] at hpass
  exact eq_of_beq hpass

/-- Behind the run on one side of a set the text goes on on the other, if at all. -/
theorem side_behind_takeSide {y : Char} (hy : (takeSide s inside c).2.peekChar = some y) :
    s.contains y = !inside := by
  have hfail := not_test_behind_run hy
  rw [accepts_sideTest] at hfail
  cases hs : s.contains y <;> cases inside <;> simp_all

/-- The text goes on on the side whose turn it is, if at all, or else on the other. -/
theorem cases_side (s : CharSet) (inside : Bool) (c : Cursor) :
    (∀ y, c.peekChar = some y → s.contains y = inside) ∨
      c.isEof = false ∧ ∀ y, c.peekChar = some y → s.contains y = !inside := by
  rw [isEof, peekChar]
  cases c.remaining with
  | nil => exact .inl (by simp)
  | cons x t =>
    by_cases hx : s.contains x = inside
    · exact .inl (by simpa using hx)
    · exact .inr ⟨rfl, by simpa using Bool.eq_not_of_ne hx⟩

/-! ## The loop -/

theorem Alternates.unique {last' : Cursor} {pieces' : List Text}
    (h : Alternates s inside c pieces last) (h' : Alternates s inside c pieces' last') :
    pieces' = pieces ∧ last' = last := by
  induction h generalizing pieces' last' with
  | stop heof =>
    rcases h' with _ | ⟨hmore, _⟩
    · exact ⟨rfl, rfl⟩
    · rw [heof] at hmore
      cases hmore
  | turn heof _ ih =>
    rcases h' with hstop | ⟨_, rest⟩
    · rw [heof] at hstop
      cases hstop
    · obtain ⟨rfl, rfl⟩ := ih rest
      exact ⟨rfl, rfl⟩

theorem Alternates.isEof (h : Alternates s inside c pieces last) : last.isEof = true := by
  induction h with
  | stop heof => exact heof
  | turn _ _ ih => exact ih

theorem Alternates.flatten (h : Alternates s inside c pieces last) :
    pieces.flatten = c.remaining := by
  induction h with
  | stop heof => exact (List.isEmpty_iff.mp heof).symm
  | turn _ _ ih =>
    rw [List.flatten_cons, ih]
    exact append_remaining_take _ _

/-- From a place where the text goes on on the side whose turn it is, every turn takes a
character at least. -/
theorem exists_alternates (h : ∀ y, c.peekChar = some y → s.contains y = inside) :
    ∃ pieces last, Alternates s inside c pieces last ∧ OnSides s inside pieces := by
  -- Behind a turn the text goes on on the other side, whose turn it is then, so the same
  -- holds of what remains, which is less.
  induction hn : c.remaining.length using Nat.strongRecOn generalizing c inside with
  | ind n ih =>
    cases heof : c.isEof with
    | true => exact ⟨[], c, .stop heof, .none inside⟩
    | false =>
      have hne : (takeSide s inside c).1 ≠ [] := by
        intro hnil
        obtain ⟨y, hy⟩ := exists_peekChar heof
        have hside := takeSide_eq_nil_iff.mp hnil y hy
        rw [h y hy] at hside
        simp at hside
      have hless : (takeSide s inside c).2.remaining.length < n := by
        have happend : (takeSide s inside c).1 ++ (takeSide s inside c).2.remaining =
            c.remaining := append_remaining_take _ _
        have hlength := congrArg List.length happend
        have hpos := List.length_pos_iff.mpr hne
        rw [List.length_append] at hlength
        omega
      obtain ⟨pieces, last, hrun, hsides⟩ :=
        ih _ hless (fun y hy => side_behind_takeSide hy) rfl
      exact ⟨_, last, .turn heof hrun, .piece hne (fun y hy => side_of_mem_takeSide hy) hsides⟩

/-- A turn for the side on which the text does not go on takes nothing. -/
theorem exists_alternates_after_nothing (heof : c.isEof = false)
    (h : ∀ y, c.peekChar = some y → s.contains y = !inside) :
    ∃ pieces last, Alternates s inside c ([] :: pieces) last ∧ OnSides s (!inside) pieces := by
  have hnothing : takeSide s inside c = ([], c) := eq_of_take_eq_nil (takeSide_eq_nil_iff.mpr h)
  obtain ⟨pieces, last, hrun, hsides⟩ := exists_alternates h
  have hturn : Alternates s inside c ((takeSide s inside c).1 :: pieces) last := by
    refine .turn heof ?_
    rw [hnothing]
    exact hrun
  rw [hnothing] at hturn
  exact ⟨pieces, last, hturn, hsides⟩

/-! ## Where the text is cut -/

theorem OnSides.side_of_head {y : Char} (h : OnSides s inside pieces)
    (hy : y ∈ pieces.flatten.head?) : s.contains y = inside := by
  cases h with
  | none => cases hy
  | @piece _ piece more hne hside _ =>
    obtain ⟨x, u, rfl⟩ := List.exists_cons_of_ne_nil hne
    obtain rfl : x = y := by simpa using hy
    exact hside x (List.mem_cons_self ..)

/-- Pieces by turns are those into which their text is cut between any two characters that
are not on the same side. -/
theorem OnSides.splitBy_flatten (h : OnSides s inside pieces) :
    pieces.flatten.splitBy (fun x y => s.contains x == s.contains y) = pieces := by
  induction h with
  | none => rfl
  | @piece inside piece more hne hside hmore ih =>
    have hchain : piece.IsChain fun x y => (s.contains x == s.contains y) = true := by
      refine (List.pairwise_of_forall_mem_list fun x hx y hy => ?_).isChain
      rw [hside x hx, hside y hy]
      exact beq_self_eq_true inside
    have hcut : ∀ x ∈ piece.getLast?, ∀ y ∈ more.flatten.head?,
        (s.contains x == s.contains y) = false := by
      intro x hx y hy
      rw [hside x (List.mem_of_mem_getLast? hx), hmore.side_of_head hy]
      cases inside <;> rfl
    rw [List.flatten_cons, List.splitBy_append hcut, List.splitBy_of_isChain hne hchain, ih]
    rfl

/-- However the text goes on, the loop takes the pieces into which it is cut, and an empty
one first if it starts on the side whose turn it is not. -/
theorem exists_alternates_splitBy (s : CharSet) (inside : Bool) (c : Cursor) :
    let cuts := c.remaining.splitBy fun x y => s.contains x == s.contains y
    ∃ pieces last, Alternates s inside c pieces last ∧
      (pieces = cuts ∧ OnSides s inside cuts ∨
        pieces = [] :: cuts ∧ OnSides s (!inside) cuts) := by
  intro cuts
  rcases cases_side s inside c with hside | ⟨heof, hother⟩
  · obtain ⟨pieces, last, hrun, hsides⟩ := exists_alternates hside
    have hcuts : cuts = pieces := by
      rw [← hsides.splitBy_flatten, hrun.flatten]
    exact ⟨pieces, last, hrun, .inl ⟨hcuts.symm, hcuts ▸ hsides⟩⟩
  · obtain ⟨pieces, last, hrun, hsides⟩ := exists_alternates_after_nothing heof hother
    have hcuts : cuts = pieces := by
      rw [← hsides.splitBy_flatten, ← List.nil_append pieces.flatten, ← List.flatten_cons,
        hrun.flatten]
    exact ⟨[] :: pieces, last, hrun, .inr ⟨by rw [hcuts], hcuts ▸ hsides⟩⟩

/-- A run is the longest piece in front of the cursor whose characters all pass the test:
the next one fails it, and a second run takes nothing. The bare byte offset takes the same.
Of the run inside a set and the one outside it exactly one takes something, unless the text
has ended. And the two by turns come to the end of the text in one way. What they take makes
up the text: pieces that are not empty, by turns inside the set and outside it, cut between
any two characters on different sides, with an empty one in front where the first turn is
that of the other side. -/
theorem runs_are_maximal (c : Cursor) :
    (∀ test,
      let piece := (c.take (.satisfying test)).1
      let after := (c.take (.satisfying test)).2
      (∀ q, IsMaximalRun test c.remaining q ↔ q = piece) ∧
      (∀ y, after.peekChar = some y → test y = false) ∧
      after.take (.satisfying test) = ([], after) ∧
      c.bytes.take? (.satisfying test) = some (piece, after.bytes)) ∧
    ∀ s : CharSet,
      (c.isEof = false →
        ((c.take (.satisfying (CharTest.oneOf s).accepts)).1 = [] ↔
          (c.take (.satisfying (CharTest.noneOf s).accepts)).1 ≠ [])) ∧
      ∀ inside, ∃ pieces last,
        (∀ ps d, Alternates s inside c ps d ↔ ps = pieces ∧ d = last) ∧
        last.isEof = true ∧ pieces.flatten = c.remaining ∧
        let cuts := c.remaining.splitBy fun x y => s.contains x == s.contains y
        (pieces = cuts ∧ OnSides s inside cuts ∨
          pieces = [] :: cuts ∧ OnSides s (!inside) cuts) := by
  refine ⟨fun test => ?_, fun s => ⟨fun heof => ?_, fun inside => ?_⟩⟩
  · have hmaximal := isMaximalRun_takeWhile test c.remaining
    have hnext : ∀ y, (c.take (.satisfying test)).2.peekChar = some y → test y = false :=
      fun y hy => not_test_behind_run hy
    refine ⟨fun q => ⟨hmaximal.unique, fun h => h ▸ hmaximal⟩, hnext, ?_, c.take?_bytes _⟩
    exact eq_of_take_eq_nil (take_satisfying_eq_nil_iff.mpr hnext)
  · have hsides : (takeSide s true c).1 = [] ↔ (takeSide s false c).1 ≠ [] :=
      takeSide_eq_nil_iff_not heof
    exact hsides
  · obtain ⟨pieces, last, hrun, hcuts⟩ := exists_alternates_splitBy s inside c
    refine ⟨pieces, last, fun ps d => ⟨hrun.unique, ?_⟩, hrun.isEof, hrun.flatten, hcuts⟩
    rintro ⟨rfl, rfl⟩
    exact hrun

/-- The first turn is for characters outside the set, but the text goes on inside it. -/
theorem runs_are_maximal_from_other_side :
    let c : Cursor := ⟨['1', 'é', 'b', '1', 'é'], .ascii, 1, ['é', 'b', '1', 'é'], rfl⟩
    let s : CharSet := ⟨['b', 'é']⟩
    (c.take (.satisfying (CharTest.noneOf s).accepts)).1 = [] ∧
    ∃ last, Alternates s false c [[], ['é', 'b'], ['1'], ['é']] last ∧ last.isEof = true := by
  intro c s
  obtain ⟨_, hsets⟩ := runs_are_maximal c
  obtain ⟨hone, hloop⟩ := hsets s
  obtain ⟨pieces, last, hrun, heof, _, hcuts⟩ := hloop false
  have hpieces : pieces = [[], ['é', 'b'], ['1'], ['é']] := by
    rcases hcuts with ⟨_, hsides⟩ | ⟨hpieces, _⟩
    · have hside : s.contains 'é' = false := hsides.side_of_head (by decide)
      cases hside
    · exact hpieces
  refine ⟨by_contra fun hne => absurd ((hone rfl).mpr hne) (by decide), last, ?_, heof⟩
  exact (hrun _ _).mpr ⟨hpieces.symm, rfl⟩

end LexScan.Cursor
