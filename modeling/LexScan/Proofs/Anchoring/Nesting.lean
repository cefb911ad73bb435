import LexScan.Proofs.Anchoring.Tokens

/-!
# Reading inside a group

What a text reads as does not depend on the groups around it, as long as its own
parentheses do not close one of these. So the text in a group that is tied to the start
reads as it does alone, with that group around it until the last parenthesis.

The condition is about the parentheses only: counted from left to right, there is never one
more closed than opened, and none is left open. A text that violates it reads as no pattern
alone, but may do so inside a group.
-/

namespace LexScan.Pattern

/-- How many groups are open after a token, given how many were before; none are left to
close if there are none. -/
def Token.nesting? (depth : Nat) : Token → Option Nat
  | .groupOpen _ _ => some (depth + 1)
  | .groupClose => if depth = 0 then none else some (depth - 1)
  | _ => some depth

/-- A text that can be cut into tokens and whose parentheses that open and close groups belong
together in pairs. -/
def Balanced (t : Text) : Prop :=
  ∃ tokens, tokens? t = some tokens ∧ tokens.foldlM Token.nesting? 0 = some 0

/-- The pattern that a text writes down and its depth, before these are checked as a
whole. -/
def written? (t : Text) : Option Part :=
  (tokens? t).bind fun tokens => (tokens.foldlM Nest.step? ({} : Nest)).bind fun s =>
    if s.around.isEmpty then some s.group.body else none

/-- A pattern behind a test for the start of the text. -/
def tied (p : Pattern) : Pattern := row [.textStart, p]

theorem tied_eq (p : Pattern) : tied p = ofParts (.textStart :: p.parts.foldr consPart []) := by
  simp [tied, row, parts, consPart]

theorem choice_tied (p : Pattern) : choice [tied p] = tied p := by
  rw [tied_eq]
  cases p.parts.foldr consPart [] <;> rfl

namespace Nest

variable {s s' : Nest} {token : Token} {tokens : List Token}

/-- The same state with more groups around. -/
def within (outer : List Group) (s : Nest) : Nest := { s with around := s.around ++ outer }

/-- What a token does to the groups: it opens one, closes the innermost, or adds to it. -/
inductive Moves (s s' : Nest) : Token → Prop where
  | opens (counts : Bool) (dotAll : Option Bool) (haround : s'.around = s.group :: s.around) :
      Moves s s' (.groupOpen counts dotAll)
  | closes {outer : Group} (haround : s.around = outer :: s'.around)
      (hnumber : s'.group.number = outer.number) : Moves s s' .groupClose
  | adds {token : Token} (hnesting : ∀ depth, token.nesting? depth = some depth)
      (haround : s'.around = s.around) (hnumber : s'.group.number = s.group.number) :
      Moves s s' token

theorem push?_eq_some_iff {p : Part} : s.push? p = some s' ↔ p.depth ≤ depthLimit ∧
    s' = { s with group := { s.group with items := .part p :: s.group.items } } := by
  rw [push?]
  split
  · next h => simp [h, eq_comm]
  · next h => simp [h]

theorem push?_within (outer : List Group) (s : Nest) (p : Part) :
    (s.within outer).push? p = (s.push? p).map (within outer) := by
  rw [push?, push?]
  split <;> rfl

theorem moves_of_push? {p : Part} (hnesting : ∀ depth, token.nesting? depth = some depth)
    (h : s.push? p = some s') : Moves s s' token := by
  obtain ⟨_, rfl⟩ := push?_eq_some_iff.mp h
  exact .adds hnesting rfl rfl

theorem moves_of_step? (h : s.step? token = some s') : Moves s s' token := by
  cases token with
  | groupOpen counts dotAll =>
    obtain rfl := Option.some.inj h
    exact .opens counts dotAll rfl
  | groupClose =>
    rw [step?] at h
    split at h
    · cases h
    · next outer around haround =>
      obtain ⟨_, rfl⟩ := push?_eq_some_iff.mp h
      exact .closes haround rfl
  | bar =>
    obtain rfl := Option.some.inj h
    exact .adds (fun _ => rfl) rfl rfl
  | dotAll on =>
    obtain rfl := Option.some.inj h
    exact .adds (fun _ => rfl) rfl rfl
  | times least most greedy =>
    rw [step?] at h
    split at h
    · obtain ⟨_, rfl⟩ := push?_eq_some_iff.mp h
      exact .adds (fun _ => rfl) rfl rfl
    · cases h
  | _ => exact moves_of_push? (fun _ => rfl) h

theorem Moves.nesting?_eq (h : Moves s s' token) :
    token.nesting? s.around.length = some s'.around.length := by
  cases h with
  | opens _ _ haround => rw [haround]; rfl
  | closes haround _ => rw [haround]; rfl
  | adds hnesting haround _ => rw [hnesting, haround]

/-- The groups that are open follow the parentheses. -/
theorem nesting?_of_foldlM (h : tokens.foldlM step? s = some s') :
    tokens.foldlM Token.nesting? s.around.length = some s'.around.length := by
  induction tokens generalizing s with
  | nil =>
    obtain rfl := Option.some.inj h
    rfl
  | cons token tokens ih =>
    rw [List.foldlM_cons] at h ⊢
    obtain ⟨next, hstep, hrest⟩ := Option.bind_eq_some_iff.mp h
    rw [(moves_of_step? hstep).nesting?_eq]
    exact ih hrest

/-! ## Groups around -/

/-- A token that does not close a group around reads as it does without. -/
theorem step?_within (outer : List Group) {depth : Nat}
    (h : token.nesting? s.around.length = some depth) :
    (s.within outer).step? token = (s.step? token).map (within outer) := by
  cases token with
  | groupOpen counts dotAll => rfl
  | groupClose =>
    cases haround : s.around with
    | nil =>
      rw [haround] at h
      cases h
    | cons inner around =>
      rw [step?, step?]
      simp only [within, haround, List.cons_append]
      exact push?_within outer { s with group := inner, around := around } s.group.close
  | times least most greedy =>
    have hgroup : (s.within outer).group = s.group := rfl
    rw [step?, step?, hgroup]
    cases s.group.items with
    | nil => rfl
    | cons item items =>
      cases item with
      | flag => rfl
      | part p =>
        exact push?_within outer { s with group := { s.group with items := items } } _
  | bar => rfl
  | dotAll on => rfl
  | _ => exact push?_within outer s _

theorem foldlM_within (outer : List Group) {depth : Nat}
    (h : tokens.foldlM Token.nesting? s.around.length = some depth) :
    tokens.foldlM step? (s.within outer) = (tokens.foldlM step? s).map (within outer) := by
  induction tokens generalizing s with
  | nil => rfl
  | cons token tokens ih =>
    rw [List.foldlM_cons] at h ⊢
    obtain ⟨after, hafter, hrest⟩ := Option.bind_eq_some_iff.mp h
    rw [step?_within outer hafter, List.foldlM_cons]
    cases hstep : s.step? token with
    | none => rfl
    | some next =>
      -- The step has opened and closed what the parentheses say, so they go on counting right.
      obtain rfl := Option.some.inj (hafter.symm.trans (moves_of_step? hstep).nesting?_eq)
      exact ih hrest

/-! ## The outermost group -/

/-- The numbers of the open groups, the innermost first. -/
def numbers (s : Nest) : List (Option Nat) := (s.group :: s.around).map Group.number

theorem Moves.getLast?_numbers (h : Moves s s' token) :
    s'.numbers.getLast? = s.numbers.getLast? := by
  cases h with
  | opens _ _ haround => simp [numbers, haround]
  | closes haround hnumber => simp [numbers, haround, hnumber]
  | adds _ haround hnumber => simp [numbers, haround, hnumber]

theorem getLast?_numbers_of_foldlM (h : tokens.foldlM step? s = some s') :
    s'.numbers.getLast? = s.numbers.getLast? := by
  induction tokens generalizing s with
  | nil =>
    obtain rfl := Option.some.inj h
    rfl
  | cons token tokens ih =>
    rw [List.foldlM_cons] at h
    obtain ⟨next, hstep, hrest⟩ := Option.bind_eq_some_iff.mp h
    rw [ih hrest, (moves_of_step? hstep).getLast?_numbers]

/-- The outermost group does not count. -/
theorem number_of_foldlM (h : tokens.foldlM step? ({} : Nest) = some s)
    (haround : s.around = []) : s.group.number = none := by
  have hlast := getLast?_numbers_of_foldlM h
  rw [numbers, haround] at hlast
  exact Option.some.inj hlast

/-- The outermost group when only a test for the start of the text has been read. -/
def atStart : Group := { items := [.part ⟨.textStart, 0⟩] }

/-- The closed group and the test for the start of the text before it, as a whole. -/
theorem body_behind_start (p : Part) :
    ({ atStart with items := .part p :: atStart.items } : Group).body =
      ⟨tied p.pattern, p.depth + 1⟩ := by
  have hdepth : depthTogether [p.depth, 0] = p.depth + 1 := by
    simp [depthTogether, greatest]
  change (⟨choice [tied p.pattern], depthTogether [depthTogether [p.depth, 0]]⟩ : Part) = _
  rw [choice_tied, hdepth, depthTogether]

/-- The parenthesis that closes the group behind a test for the start of the text ends a
pattern, if the limits are kept. -/
theorem finish?_behind_start {g : Group} (hnumber : g.number = none) (counted : Nat) :
    ((⟨g, [atStart], counted⟩ : Nest).step? .groupClose).bind
      finish? =
    if g.body.depth + 2 ≤ depthLimit ∧ (tied g.body.pattern).fits = true then
      some (tied g.body.pattern)
    else none := by
  have hclose : g.close = ⟨g.body.pattern, g.body.depth + 1⟩ := by
    rw [Group.close, hnumber]
  have hpush : (⟨g, [atStart], counted⟩ : Nest).step? .groupClose =
      (⟨atStart, [], counted⟩ : Nest).push? g.close := rfl
  rw [hpush]
  by_cases hdepth : g.close.depth ≤ depthLimit
  · rw [push?_eq_some_iff.mpr ⟨hdepth, rfl⟩, Option.bind_some, finish?]
    dsimp only
    rw [body_behind_start, hclose]
    simp only [List.isEmpty_nil, true_and]
  · rw [push?, if_neg hdepth, if_neg]
    · rfl
    · rw [hclose] at hdepth
      rintro ⟨hle, _⟩
      exact hdepth (by dsimp only; omega)

end Nest

/-! ## Whole texts -/

variable {t : Text} {w : Part}

theorem read?_eq (t : Text) : read? t = (written? t).bind fun w =>
    if w.depth ≤ depthLimit ∧ w.pattern.fits = true then some w.pattern else none := by
  rw [read?, written?, Option.bind_assoc]
  congr 1
  funext tokens
  rw [Option.bind_assoc]
  congr 1
  funext s
  rw [Nest.finish?]
  cases s.around <;> simp

theorem written?_eq_some_iff : written? t = some w ↔ ∃ tokens s, tokens? t = some tokens ∧
    tokens.foldlM Nest.step? ({} : Nest) = some s ∧ s.around = [] ∧ s.group.body = w := by
  simp only [written?, Option.bind_eq_some_iff]
  constructor
  · rintro ⟨tokens, htokens, s, hs, h⟩
    split at h
    · next haround =>
      exact ⟨tokens, s, htokens, hs, List.isEmpty_iff.mp haround, Option.some.inj h⟩
    · cases h
  · rintro ⟨tokens, s, htokens, hs, haround, rfl⟩
    exact ⟨tokens, htokens, s, hs, by rw [haround]; rfl⟩

theorem balanced_of_written? (h : written? t = some w) : Balanced t := by
  obtain ⟨tokens, s, htokens, hs, haround, _⟩ := written?_eq_some_iff.mp h
  have hnesting := Nest.nesting?_of_foldlM hs
  rw [haround] at hnesting
  exact ⟨tokens, htokens, hnesting⟩

/-- Where the parentheses belong together in pairs, a text tied to the start reads as what it
writes down alone, behind a test for the start of the text. The group and the row around it
are two more levels. -/
theorem readAnchored?_eq (h : Balanced t) : readAnchored? t = (written? t).bind fun w =>
    if w.depth + 2 ≤ depthLimit ∧ (tied w.pattern).fits = true then some (tied w.pattern)
    else none := by
  obtain ⟨tokens, htokens, hnesting⟩ := h
  have hwithin := Nest.foldlM_within (s := {}) [Nest.atStart] hnesting
  have hanchored : readAnchored? t = ((tokens ++ [Token.groupClose]).foldlM Nest.step?
      (Nest.within [Nest.atStart] {})).bind Nest.finish? := by
    rw [readAnchored?, read?, tokens?_anchor htokens]
    rfl
  simp only [List.foldlM_append, List.foldlM_cons, List.foldlM_nil, bind_pure] at hanchored
  rw [hanchored, hwithin, written?, htokens, Option.bind_some]
  cases hs : tokens.foldlM Nest.step? ({} : Nest) with
  | none => rfl
  | some s =>
    obtain ⟨g, around, counted⟩ := s
    have hdepth := (Nest.nesting?_of_foldlM hs).symm.trans hnesting
    obtain rfl : around = [] := List.length_eq_zero_iff.mp (Option.some.inj hdepth)
    exact Nest.finish?_behind_start (Nest.number_of_foldlM hs rfl) counted

end LexScan.Pattern
