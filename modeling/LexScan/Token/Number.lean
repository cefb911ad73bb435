import LexScan.Pattern.Reader
import LexScan.Pattern.Search.Lemmas

/-!
# Numbers

How numbers are written, as a pattern: digits, perhaps a fraction, perhaps an
exponent. By `atStart?_number` the pattern matches at the start of a text what can be
read off character by character: all digits there are, then a point only if a digit
follows it, then a letter E and a sign only if a digit follows them.
-/

namespace LexScan.Token

/-- How a number is written, as a pattern. -/
def numberText : Text := "[0-9]+(\\.[0-9]+)?([eE][+-]?[0-9]+)?".toList

/-- At least one decimal digit. -/
def digits : Pattern := .times (.set [(0x30, 0x39)]) 1 none true

/-- A pattern that may be left out. -/
def optionally (p : Pattern) : Pattern := .times p 0 (some 1) true

/-- A point and digits. -/
def fraction : Pattern := .cat (.literal ['.']) digits

/-- A plus or a minus. -/
def sign : Pattern := .set [(0x2B, 0x2B), (0x2D, 0x2D)]

/-- The letter E, a sign or none, and digits. -/
def exponent : Pattern :=
  .cat (.set [(0x45, 0x45), (0x65, 0x65)]) (.cat (optionally sign) digits)

/-- Digits, perhaps a fraction, perhaps an exponent, at the start of a text. -/
def number : Pattern :=
  .cat .textStart
    (.cat digits (.cat (optionally (.group 1 fraction)) (optionally (.group 2 exponent))))

theorem readAnchored_numberText : Pattern.readAnchored? numberText = some number := by
  decide +kernel

/-! ## Numbers character by character -/

/-- The digits that a text starts with. -/
def leadingDigits (t : Text) : Text := t.takeWhile Char.isDigit

/-- A point and digits, if the text starts with them. -/
def leadingFraction : Text → Text
  | [] => []
  | c :: t => if c = '.' ∧ leadingDigits t ≠ [] then c :: leadingDigits t else []

/-- A sign, if the text starts with one. -/
def leadingSign : Text → Text
  | [] => []
  | c :: _ => if c = '+' ∨ c = '-' then [c] else []

/-- The letter E, a sign or none, and digits, if the text starts with them. -/
def leadingExponent : Text → Text
  | [] => []
  | c :: t =>
      if (c = 'E' ∨ c = 'e') ∧ leadingDigits (t.drop (leadingSign t).length) ≠ [] then
        c :: (leadingSign t ++ leadingDigits (t.drop (leadingSign t).length))
      else []

/-- The number that a text starts with, if a digit comes first. -/
def leadingNumber (t : Text) : Text :=
  let afterWhole := t.drop (leadingDigits t).length
  let afterPart := afterWhole.drop (leadingFraction afterWhole).length
  leadingDigits t ++ (leadingFraction afterWhole ++ leadingExponent afterPart)

theorem leadingDigits_cons_of_pos {c : Char} (h : c.isDigit = true) (t : Text) :
    leadingDigits (c :: t) = c :: leadingDigits t := List.takeWhile_cons_of_pos h

theorem leadingDigits_cons_of_neg {c : Char} (h : ¬ c.isDigit = true) (t : Text) :
    leadingDigits (c :: t) = [] := List.takeWhile_cons_of_neg h

theorem isPrefix_leadingDigits (t : Text) : leadingDigits t <+: t := List.takeWhile_prefix _

theorem isPrefix_leadingFraction (t : Text) : leadingFraction t <+: t := by
  cases t with
  | nil => exact List.nil_prefix
  | cons c t =>
    rw [leadingFraction]
    split
    · exact List.cons_prefix_cons.mpr ⟨rfl, isPrefix_leadingDigits t⟩
    · exact List.nil_prefix

theorem isPrefix_leadingSign (t : Text) : leadingSign t <+: t := by
  cases t with
  | nil => exact List.nil_prefix
  | cons c t =>
    rw [leadingSign]
    split
    · exact ⟨t, rfl⟩
    · exact List.nil_prefix

/-- Two pieces that a text starts with, one behind the other. -/
theorem prefix_append_of_drop {s u t : Text} (hs : s <+: t) (hu : u <+: t.drop s.length) :
    s ++ u <+: t := by
  obtain ⟨r, rfl⟩ := hs
  rw [List.drop_left] at hu
  exact (List.prefix_append_right_inj s).mpr hu

theorem isPrefix_leadingExponent (t : Text) : leadingExponent t <+: t := by
  cases t with
  | nil => exact List.nil_prefix
  | cons c t =>
    rw [leadingExponent]
    split
    · exact List.cons_prefix_cons.mpr
        ⟨rfl, prefix_append_of_drop (isPrefix_leadingSign t) (isPrefix_leadingDigits _)⟩
    · exact List.nil_prefix

theorem isPrefix_leadingNumber (t : Text) : leadingNumber t <+: t :=
  prefix_append_of_drop (isPrefix_leadingDigits t)
    (prefix_append_of_drop (isPrefix_leadingFraction _) (isPrefix_leadingExponent _))

/-! ## The pattern and its parts -/

open Pattern (Place Search run found fail)

theorem contains_digits (c : Char) :
    CodeRanges.contains [(0x30, 0x39)] c = c.isDigit := by
  simp only [CodeRanges.contains, List.any_cons, List.any_nil, Bool.or_false]
  rfl

theorem contains_two (x y c : Char) :
    CodeRanges.contains [(x.toNat, x.toNat), (y.toNat, y.toNat)] c =
      decide (c = x ∨ c = y) := by
  simp only [CodeRanges.contains, List.any_cons, List.any_nil, Bool.or_false,
    ← Bool.decide_and, ← Bool.decide_or, decide_eq_decide, ← Char.toNat_inj]
  omega

theorem run_digits (number : Nat) (p : Place) (next : Place → Search) :
    run digits number p next =
      Pattern.oneAndMore (run (.set [(0x30, 0x39)]) (number + 1)) true (number + 1) p next := rfl

theorem run_optionally (body : Pattern) (number : Nat) (p : Place) (next : Place → Search) :
    run (optionally body) number p next =
      Pattern.choose number p (run body (number + 1) p next) (next p) := by
  simp [optionally, run, Pattern.exactly, Pattern.atMost, Pattern.turnOrStop]

theorem run_fraction (number n : Nat) (c : Char) (t : Text) (next : Place → Search) :
    run (.group 1 fraction) number ⟨n, c :: t⟩ next =
      if c = '.' then run digits number ⟨n + 1, t⟩ next else fail := by
  by_cases hc : c = '.'
  · subst hc
    rfl
  · simp [fraction, run, Place.skip?, hc]

theorem run_sign (number n : Nat) (c : Char) (t : Text) (next : Place → Search) :
    run sign number ⟨n, c :: t⟩ next =
      if c = '+' ∨ c = '-' then next ⟨n + 1, t⟩ else fail := by
  have hsign : CodeRanges.contains [(0x2B, 0x2B), (0x2D, 0x2D)] c =
      decide (c = '+' ∨ c = '-') := contains_two '+' '-' c
  rw [sign, run, hsign]
  simp only [decide_eq_true_eq]

theorem run_exponent (number n : Nat) (c : Char) (t : Text) (next : Place → Search) :
    run (.group 2 exponent) number ⟨n, c :: t⟩ next =
      if c = 'E' ∨ c = 'e' then
        run (optionally sign) number ⟨n + 1, t⟩ fun q => run digits (number + 1) q next
      else fail := by
  have hmark : CodeRanges.contains [(0x45, 0x45), (0x65, 0x65)] c =
      decide (c = 'E' ∨ c = 'e') := contains_two 'E' 'e' c
  rw [exponent, Pattern.run_group, Pattern.run_cat, run, hmark]
  simp only [decide_eq_true_eq]
  rfl

/-! ## Where the parts lead -/

variable {n choice : Nat} {t : Text} {q : Place} {next : Place → Search}

/-- More digits are taken as long as there are any. -/
theorem again_reaches (k : Nat)
    (h : (next ((⟨n, t⟩ : Place).advance (leadingDigits t).length)).Reaches 0 (choice + 1) q) :
    (Pattern.again (run (.set [(0x30, 0x39)]) k) true choice t ⟨n, t⟩ next).Reaches
      n choice q := by
  induction t generalizing n with
  | nil => exact Pattern.choose_of_fail (h.earlier (by omega))
  | cons c t ih =>
    rw [Pattern.again, Pattern.turnOrStop, if_pos rfl, run, contains_digits]
    by_cases hc : c.isDigit = true
    · rw [leadingDigits_cons_of_pos hc, List.length_cons, Place.advance_cons] at h
      rw [if_pos hc]
      exact Pattern.choose_of_first (ih h)
    · rw [leadingDigits_cons_of_neg hc] at h
      rw [if_neg hc]
      exact Pattern.choose_of_fail (h.earlier (by omega))

theorem digits_reaches (ht : leadingDigits t ≠ [])
    (h : (next ((⟨n, t⟩ : Place).advance (leadingDigits t).length)).Reaches 0 (choice + 2) q) :
    (run digits choice ⟨n, t⟩ next).Reaches 0 choice q := by
  cases t with
  | nil => exact absurd rfl ht
  | cons c t =>
    by_cases hc : c.isDigit = true
    · rw [leadingDigits_cons_of_pos hc, List.length_cons, Place.advance_cons] at h
      rw [run_digits, Pattern.oneAndMore, run, contains_digits, if_pos hc]
      exact (again_reaches _ h).earlier (by omega)
    · exact absurd (leadingDigits_cons_of_neg hc t) ht

theorem digits_fail (ht : leadingDigits t = []) :
    run digits choice ⟨n, t⟩ next = fail := by
  cases t with
  | nil => rfl
  | cons c t =>
    by_cases hc : c.isDigit = true
    · rw [leadingDigits_cons_of_pos hc] at ht
      cases ht
    · rw [run_digits, Pattern.oneAndMore, run, contains_digits, if_neg hc]

theorem fraction_reaches
    (h : (next ((⟨n, t⟩ : Place).advance (leadingFraction t).length)).Reaches 0 (choice + 3) q) :
    (run (optionally (.group 1 fraction)) choice ⟨n, t⟩ next).Reaches n choice q := by
  rw [run_optionally]
  cases t with
  | nil => exact Pattern.choose_of_fail (h.earlier (by omega))
  | cons c t =>
    rw [run_fraction]
    by_cases hdigits : leadingDigits t = []
    · have hfail : (if c = '.' then run digits (choice + 1) ⟨n + 1, t⟩ next else fail) =
          fail := by
        rw [digits_fail hdigits, ite_self]
      rw [leadingFraction, if_neg (fun hc => hc.2 hdigits)] at h
      rw [hfail]
      exact Pattern.choose_of_fail (h.earlier (by omega))
    · by_cases hc : c = '.'
      · rw [leadingFraction, if_pos ⟨hc, hdigits⟩, List.length_cons, Place.advance_cons] at h
        rw [if_pos hc]
        exact Pattern.choose_of_first ((digits_reaches hdigits h).earlier (by omega))
      · rw [leadingFraction, if_neg (fun h => hc h.1)] at h
        rw [if_neg hc]
        exact Pattern.choose_of_fail (h.earlier (by omega))

/-- Where no digit follows a sign or its absence, there is no exponent. -/
theorem signed_eq_none {k : Nat} (ht : leadingDigits (t.drop (leadingSign t).length) = []) :
    ∀ tried, (run (optionally sign) choice ⟨n, t⟩ (fun p => run digits k p next) tried).1 =
      none := by
  rw [run_optionally]
  cases t with
  | nil => exact Pattern.choose_eq_none (fun _ => rfl) (fun _ => rfl)
  | cons s t =>
    rw [run_sign]
    by_cases hs : s = '+' ∨ s = '-'
    · have hdigit : ¬ s.isDigit = true := by
        rcases hs with rfl | rfl <;> decide
      have hafter : leadingDigits t = [] := by simpa [leadingSign, hs] using ht
      rw [if_pos hs, digits_fail hafter, digits_fail (leadingDigits_cons_of_neg hdigit t)]
      exact Pattern.choose_eq_none (fun _ => rfl) (fun _ => rfl)
    · have hhere : leadingDigits (s :: t) = [] := by simpa [leadingSign, hs] using ht
      rw [if_neg hs, digits_fail hhere]
      exact Pattern.choose_eq_none (fun _ => rfl) (fun _ => rfl)

theorem signed_reaches (ht : leadingDigits (t.drop (leadingSign t).length) ≠ [])
    (h : (next ((⟨n, t⟩ : Place).advance ((leadingSign t).length +
      (leadingDigits (t.drop (leadingSign t).length)).length))).Reaches 0 (choice + 3) q) :
    (run (optionally sign) choice ⟨n, t⟩ (fun p => run digits (choice + 1) p next)).Reaches
      n choice q := by
  rw [run_optionally]
  cases t with
  | nil => exact absurd rfl ht
  | cons s t =>
    rw [run_sign]
    by_cases hs : s = '+' ∨ s = '-'
    · have hsign : leadingSign (s :: t) = [s] := if_pos hs
      rw [hsign, List.length_singleton, List.drop_one, List.tail_cons, Nat.add_comm 1,
        Place.advance_cons] at h
      rw [hsign] at ht
      rw [if_pos hs]
      exact Pattern.choose_of_first ((digits_reaches ht h).earlier (by omega))
    · have hsign : leadingSign (s :: t) = [] := if_neg hs
      rw [hsign, List.length_nil, List.drop_zero, Nat.zero_add] at h
      rw [hsign] at ht
      rw [if_neg hs]
      exact Pattern.choose_of_fail ((digits_reaches ht h).earlier (by omega))

theorem exponent_reaches :
    (run (optionally (.group 2 exponent)) choice ⟨n, t⟩ found).Reaches n choice
      ((⟨n, t⟩ : Place).advance (leadingExponent t).length) := by
  rw [run_optionally]
  cases t with
  | nil => exact Pattern.choose_of_fail fun _ _ => rfl
  | cons c t =>
    rw [run_exponent]
    by_cases hc : c = 'E' ∨ c = 'e'
    · rw [if_pos hc]
      by_cases hdigits : leadingDigits (t.drop (leadingSign t).length) = []
      · rw [leadingExponent, if_neg (fun h => h.2 hdigits)]
        exact Pattern.choose_of_none (signed_eq_none hdigits)
      · rw [leadingExponent, if_pos ⟨hc, hdigits⟩, List.length_cons, Place.advance_cons,
          List.length_append]
        have hfound : (found ((⟨n + 1, t⟩ : Place).advance ((leadingSign t).length +
            (leadingDigits (t.drop (leadingSign t).length)).length))).Reaches 0 (choice + 4) _ :=
          fun _ _ => rfl
        exact Pattern.choose_of_first ((signed_reaches hdigits hfound).earlier (by omega))
    · rw [if_neg hc, leadingExponent, if_neg (fun h => hc h.1)]
      exact Pattern.choose_of_fail fun _ _ => rfl

/-- At the start of a text the pattern matches the number there, if there is one. -/
theorem atStart?_number (t : Text) :
    number.atStart? t = if leadingDigits t = [] then none else some (leadingNumber t) := by
  have hend : number.endFrom? ⟨0, t⟩ =
      (run digits 0 ⟨0, t⟩ (fun p => run (optionally (.group 1 fraction)) 2 p
        fun p => run (optionally (.group 2 exponent)) 5 p found) {}).1 := rfl
  rw [Pattern.atStart?, hend]
  by_cases hdigits : leadingDigits t = []
  · rw [digits_fail hdigits, if_pos hdigits]
    rfl
  · let p₁ := (⟨0, t⟩ : Place).advance (leadingDigits t).length
    let p₂ := p₁.advance (leadingFraction p₁.rest).length
    let p₃ := p₂.advance (leadingExponent p₂.rest).length
    have hpower : (run (optionally (.group 2 exponent)) 5 p₂ found).Reaches p₂.before 5 p₃ :=
      exponent_reaches
    have hpart : (run (optionally (.group 1 fraction)) 2 p₁
        fun p => run (optionally (.group 2 exponent)) 5 p found).Reaches p₁.before 2 p₃ :=
      fraction_reaches (hpower.earlier (by omega))
    have hwhole : (run digits 0 ⟨0, t⟩ (fun p => run (optionally (.group 1 fraction)) 2 p
        fun p => run (optionally (.group 2 exponent)) 5 p found)).Reaches 0 0 p₃ :=
      digits_reaches hdigits (hpart.earlier (by omega))
    have hbegins := isPrefix_leadingNumber t
    have hbefore : p₃.before = (leadingNumber t).length := by
      simp [p₃, p₂, p₁, Place.advance, leadingNumber, Nat.add_assoc]
    rw [hwhole {} (Pattern.unseen_empty 0 0), if_neg hdigits, Option.map_some, hbefore]
    exact congrArg some (List.prefix_iff_eq_take.mp hbegins).symm

end LexScan.Token
