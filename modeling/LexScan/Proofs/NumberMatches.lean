import LexScan.Proofs.NumberGrammar
import LexScan.Token.Rule

/-!
# Numbers at a cursor

The pattern for numbers prefers what comes first in it and turns back where that leads
nowhere, which need not end with the longest match. For this pattern it does: a cursor
finds a number exactly in front of a digit, and takes the longest one. A fraction or an
exponent that is only begun stays where it is, since every character of a number is a digit
or has one behind it.
-/

namespace LexScan.Token

/-! ## Digits behind what is no digit -/

/-- A character of a number that is a digit, or has one behind it. Between a letter E and
its digit a sign may stand. -/
inductive BringsDigit : Char → Text → Prop where
  | digit {d : Char} (hd : d.isDigit = true) (behind : Text) : BringsDigit d behind
  | point {d : Char} (hd : d.isDigit = true) (behind : Text) : BringsDigit '.' (d :: behind)
  | sign {x d : Char} (hx : IsSign [x]) (hd : d.isDigit = true) (behind : Text) :
      BringsDigit x (d :: behind)
  | power {e d : Char} {s : Text} (he : e = 'E' ∨ e = 'e') (hs : IsSign s)
      (hd : d.isDigit = true) (behind : Text) : BringsDigit e (s ++ d :: behind)

/-- Every character of a text brings a digit. -/
def AllBringDigits (t : Text) : Prop :=
  ∀ before x behind, t = before ++ x :: behind → BringsDigit x behind

theorem BringsDigit.append {x : Char} {behind : Text} (h : BringsDigit x behind) (t : Text) :
    BringsDigit x (behind ++ t) := by
  cases h with
  | digit hd => exact .digit hd _
  | point hd => exact .point hd _
  | sign hx hd => exact .sign hx hd _
  | power he hs hd =>
    rw [List.append_assoc]
    exact .power he hs hd _

theorem allBringDigits_nil : AllBringDigits [] := by
  intro before x behind h
  exact absurd h.symm (List.append_ne_nil_of_right_ne_nil before (List.cons_ne_nil x behind))

theorem AllBringDigits.cons {x : Char} {t : Text} (hx : BringsDigit x t) (h : AllBringDigits t) :
    AllBringDigits (x :: t) := by
  intro before y behind hsplit
  cases before with
  | nil =>
    obtain ⟨rfl, rfl⟩ := List.cons.inj hsplit
    exact hx
  | cons z before => exact h before y behind (List.cons.inj hsplit).2

theorem AllBringDigits.append {s t : Text} (hs : AllBringDigits s) (ht : AllBringDigits t) :
    AllBringDigits (s ++ t) := by
  induction s with
  | nil => exact ht
  | cons x s ih =>
    have hx : BringsDigit x s := hs [] x s rfl
    have hmore : AllBringDigits s := fun before y behind hsplit =>
      hs (x :: before) y behind (congrArg (x :: ·) hsplit)
    exact .cons (hx.append t) (ih hmore)

theorem IsDigits.allBringDigits {t : Text} (h : IsDigits t) : AllBringDigits t := by
  rintro before x behind rfl
  exact .digit (h.2 x (List.mem_append_right before List.mem_cons_self)) behind

theorem IsFraction.allBringDigits {t : Text} (h : IsFraction t) : AllBringDigits t := by
  cases h with
  | absent => exact allBringDigits_nil
  | point hplaces =>
    obtain ⟨d, more, rfl, hd⟩ := hplaces.exists_cons
    exact .cons (.point hd more) hplaces.allBringDigits

theorem IsExponent.allBringDigits {t : Text} (h : IsExponent t) : AllBringDigits t := by
  cases h with
  | absent => exact allBringDigits_nil
  | power he hs hplaces =>
    obtain ⟨d, more, rfl, hd⟩ := hplaces.exists_cons
    refine .cons (.power he hs hd more) ?_
    cases hs with
    | absent => exact hplaces.allBringDigits
    | plus => exact .cons (.sign .plus hd more) hplaces.allBringDigits
    | minus => exact .cons (.sign .minus hd more) hplaces.allBringDigits

theorem IsNumber.allBringDigits {t : Text} (h : IsNumber t) : AllBringDigits t := by
  obtain ⟨hwhole, hpart, hpower⟩ := h
  exact hwhole.allBringDigits.append (hpart.allBringDigits.append hpower.allBringDigits)

/-! ## At a cursor -/

variable {c after : Cursor} {piece : Text}

theorem leadingDigits_ne_nil_iff {t : Text} :
    leadingDigits t ≠ [] ↔ ∃ d, t.head? = some d ∧ d.isDigit = true := by
  cases t with
  | nil => simp [leadingDigits]
  | cons d t => by_cases hd : d.isDigit = true <;> simp [leadingDigits, hd]

/-- What is taken is the longest number in front of what then remains. -/
theorem check_number_eq_ok_iff :
    c.check (.lookingAt number) = (.ok piece, after) ↔
      piece ++ after.remaining = c.remaining ∧ LongestNumber piece after.remaining ∧
        after = c.advance piece.length := by
  rw [check_number]
  constructor
  · intro h
    split at h
    · cases h
    · next hdigits =>
      obtain ⟨hpiece, rfl⟩ := Prod.mk.inj h
      obtain rfl := Except.ok.inj hpiece
      have happend : leadingNumber c.remaining ++
          (c.advance (leadingNumber c.remaining).length).remaining = c.remaining :=
        List.prefix_iff_eq_append.mp (isPrefix_leadingNumber c.remaining)
      refine ⟨happend, longestNumber_iff.mpr ?_, rfl⟩
      rw [happend]
      exact ⟨hdigits, rfl⟩
  · rintro ⟨happend, hlongest, hafter⟩
    have hread := longestNumber_iff.mp hlongest
    rw [happend] at hread
    obtain ⟨hdigits, rfl⟩ := hread
    rw [if_neg hdigits, hafter]

/-- The text for numbers is one that can be read as a pattern, and a cursor finds a match
of it exactly in front of a digit; otherwise it fails and stays. What it takes is the longest
number there. So it never takes nothing, and a point, a letter E or a sign only with a digit
behind. -/
theorem numbers_are_longest :
    Pattern.readAnchored? numberText = some number ∧ ∀ c : Cursor,
      ((∃ piece after, c.check (.lookingAt number) = (.ok piece, after)) ↔
        ∃ d, c.peekChar = some d ∧ d.isDigit = true) ∧
      (∀ piece after, c.check (.lookingAt number) = (.ok piece, after) ↔
        piece ++ after.remaining = c.remaining ∧ LongestNumber piece after.remaining ∧
          after = c.advance piece.length) ∧
      (∀ piece after, c.check (.lookingAt number) = (.ok piece, after) →
        piece ≠ [] ∧ AllBringDigits piece) ∧
      ∀ e after, c.check (.lookingAt number) = (.error e, after) →
        e = ⟨.noMatch, c.offset⟩ ∧ after = c := by
  refine ⟨readAnchored_numberText, fun c => ⟨?_, fun piece after => check_number_eq_ok_iff,
    ?_, ?_⟩⟩
  · rw [check_number, Cursor.peekChar, ← leadingDigits_ne_nil_iff]
    by_cases hdigits : leadingDigits c.remaining = [] <;> simp [hdigits]
  · intro piece after h
    have hnumber : IsNumber piece := (check_number_eq_ok_iff.mp h).2.1.1
    exact ⟨hnumber.ne_nil, hnumber.allBringDigits⟩
  · intro e after h
    rw [check_number] at h
    split at h
    · obtain ⟨he, rfl⟩ := Prod.mk.inj h
      exact ⟨(Except.error.inj he).symm, rfl⟩
    · cases h

/-- A fraction is taken, and of an exponent without digits neither the letter E nor the
sign; there no number is found. -/
theorem numbers_are_longest_before_open_exponent :
    let c := Cursor.start .ascii ['1', '.', '5', 'e', '+', 'x']
    LongestNumber ['1', '.', '5'] ['e', '+', 'x'] ∧ AllBringDigits ['1', '.', '5'] ∧
      ¬ ∃ piece after, (c.advance 3).check (.lookingAt number) = (.ok piece, after) := by
  intro c
  obtain ⟨_, htaken, hbrings, _⟩ := numbers_are_longest.2 c
  have hcheck : c.check (.lookingAt number) = (.ok ['1', '.', '5'], c.advance 3) := by
    rw [check_number]
    rfl
  refine ⟨((htaken _ _).mp hcheck).2.1, (hbrings _ _ hcheck).2, ?_⟩
  rw [(numbers_are_longest.2 (c.advance 3)).1]
  rintro ⟨d, ⟨⟩, hd⟩
  cases hd

end LexScan.Token
