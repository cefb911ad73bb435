import LexScan.Token.Number

/-!
# The longest number

What a number is, as a grammar that knows nothing of patterns: at least one digit, then
perhaps a point with at least one digit, then perhaps a letter E, a sign or none, and
at least one digit. A text that starts with a number starts with a digit, and
`leadingNumber` is then the longest number that it starts with. In particular a point,
a letter E or a sign belongs to it only with a digit behind.
-/

namespace LexScan.Token

/-- Decimal digits, at least one. -/
def IsDigits (t : Text) : Prop := t ≠ [] ∧ ∀ c ∈ t, c.isDigit = true

/-- A point and digits, or nothing. -/
inductive IsFraction : Text → Prop where
  | absent : IsFraction []
  | point {places : Text} (h : IsDigits places) : IsFraction ('.' :: places)

/-- A plus, a minus or nothing. -/
inductive IsSign : Text → Prop where
  | absent : IsSign []
  | plus : IsSign ['+']
  | minus : IsSign ['-']

/-- The letter E, a sign and digits, or nothing. -/
inductive IsExponent : Text → Prop where
  | absent : IsExponent []
  | power {e : Char} {s places : Text} (he : e = 'E' ∨ e = 'e') (hs : IsSign s)
      (h : IsDigits places) : IsExponent (e :: (s ++ places))

inductive IsNumber : Text → Prop where
  | mk {whole part power : Text} (hwhole : IsDigits whole) (hpart : IsFraction part)
      (hpower : IsExponent power) : IsNumber (whole ++ (part ++ power))

/-- A number in front of the rest of a text, with which no longer number begins. -/
def LongestNumber (piece rest : Text) : Prop :=
  IsNumber piece ∧ ∀ other, IsNumber other → other <+: piece ++ rest → other <+: piece

/-! ## What numbers are made of -/

/-- The characters that numbers are made of. -/
def isNumberPart (c : Char) : Bool :=
  c.isDigit || c == '.' || c == 'e' || c == 'E' || c == '+' || c == '-'

theorem IsDigits.isNumberPart {t : Text} (h : IsDigits t) : ∀ c ∈ t, isNumberPart c = true := by
  intro c hc
  simp [Token.isNumberPart, h.2 c hc]

theorem IsFraction.isNumberPart {t : Text} (h : IsFraction t) :
    ∀ c ∈ t, isNumberPart c = true := by
  cases h with
  | absent => exact List.forall_mem_nil _
  | point hplaces => exact List.forall_mem_cons.mpr ⟨rfl, hplaces.isNumberPart⟩

theorem IsSign.isNumberPart {t : Text} (h : IsSign t) : ∀ c ∈ t, isNumberPart c = true := by
  cases h with
  | absent => exact List.forall_mem_nil _
  | plus => exact List.forall_mem_singleton.mpr rfl
  | minus => exact List.forall_mem_singleton.mpr rfl

theorem IsExponent.isNumberPart {t : Text} (h : IsExponent t) :
    ∀ c ∈ t, isNumberPart c = true := by
  cases h with
  | absent => exact List.forall_mem_nil _
  | power he hs hplaces =>
    refine List.forall_mem_cons.mpr ⟨?_, List.forall_mem_append.mpr ⟨?_, ?_⟩⟩
    · rcases he with rfl | rfl <;> rfl
    · exact hs.isNumberPart
    · exact hplaces.isNumberPart

theorem IsNumber.isNumberPart {t : Text} (h : IsNumber t) :
    ∀ c ∈ t, isNumberPart c = true := by
  obtain ⟨hwhole, hpart, hpower⟩ := h
  exact List.forall_mem_append.mpr ⟨hwhole.isNumberPart,
    List.forall_mem_append.mpr ⟨hpart.isNumberPart, hpower.isNumberPart⟩⟩

theorem IsNumber.ne_nil {t : Text} (h : IsNumber t) : t ≠ [] := by
  obtain ⟨hwhole, _, _⟩ := h
  exact List.append_ne_nil_of_left_ne_nil hwhole.1 _

/-! ## What is read off is a number -/

theorem isDigits_leadingDigits {t : Text} (h : leadingDigits t ≠ []) :
    IsDigits (leadingDigits t) :=
  ⟨h, List.all_eq_true.mp List.all_takeWhile⟩

theorem isFraction_leadingFraction (t : Text) : IsFraction (leadingFraction t) := by
  cases t with
  | nil => exact .absent
  | cons c t =>
    rw [leadingFraction]
    split
    · next h =>
      obtain ⟨rfl, hdigits⟩ := h
      exact .point (isDigits_leadingDigits hdigits)
    · exact .absent

theorem isSign_leadingSign (t : Text) : IsSign (leadingSign t) := by
  cases t with
  | nil => exact .absent
  | cons c t =>
    rw [leadingSign]
    split
    · next h =>
      rcases h with rfl | rfl
      · exact .plus
      · exact .minus
    · exact .absent

theorem isExponent_leadingExponent (t : Text) : IsExponent (leadingExponent t) := by
  cases t with
  | nil => exact .absent
  | cons c t =>
    rw [leadingExponent]
    split
    · next h => exact .power h.1 (isSign_leadingSign t) (isDigits_leadingDigits h.2)
    · exact .absent

theorem isNumber_leadingNumber {t : Text} (h : leadingDigits t ≠ []) :
    IsNumber (leadingNumber t) :=
  .mk (isDigits_leadingDigits h) (isFraction_leadingFraction _) (isExponent_leadingExponent _)

/-! ## No number is longer

A number in front of any text is an initial piece of what is read off there. Each part
is read off whole, and nothing more than the part if another one follows it. -/

theorem leadingDigits_append {ds : Text} (h : IsDigits ds) (t : Text) :
    leadingDigits (ds ++ t) = ds ++ leadingDigits t := List.takeWhile_append_of_pos h.2

theorem IsDigits.exists_cons {ds : Text} (h : IsDigits ds) :
    ∃ d more, ds = d :: more ∧ d.isDigit = true := by
  obtain ⟨d, more, rfl⟩ := List.exists_cons_of_ne_nil h.1
  exact ⟨d, more, rfl, h.2 d List.mem_cons_self⟩

theorem leadingFraction_append {ds : Text} (h : IsDigits ds) (t : Text) :
    leadingFraction ('.' :: (ds ++ t)) = '.' :: (ds ++ leadingDigits t) := by
  have hdigits := leadingDigits_append h t
  have hne : leadingDigits (ds ++ t) ≠ [] := by
    rw [hdigits]
    exact List.append_ne_nil_of_left_ne_nil h.1 _
  rw [leadingFraction, if_pos ⟨rfl, hne⟩, hdigits]

theorem leadingSign_append {s places : Text} (hs : IsSign s) (h : IsDigits places) (t : Text) :
    leadingSign (s ++ (places ++ t)) = s := by
  cases hs with
  | absent =>
    obtain ⟨d, more, rfl, hd⟩ := h.exists_cons
    apply if_neg
    rintro (rfl | rfl)
    · cases hd
    · cases hd
  | plus => rfl
  | minus => rfl

theorem leadingExponent_append {e : Char} {s places : Text} (he : e = 'E' ∨ e = 'e')
    (hs : IsSign s) (h : IsDigits places) (t : Text) :
    leadingExponent (e :: (s ++ (places ++ t))) = e :: (s ++ (places ++ leadingDigits t)) := by
  have hdigits := leadingDigits_append h t
  have hne : leadingDigits (places ++ t) ≠ [] := by
    rw [hdigits]
    exact List.append_ne_nil_of_left_ne_nil h.1 _
  rw [leadingExponent, leadingSign_append hs h, List.drop_left, if_pos ⟨he, hne⟩, hdigits]

/-- An exponent that is there starts with no digit and no point. -/
theorem leading_exponentMark {e : Char} (he : e = 'E' ∨ e = 'e') (t : Text) :
    leadingDigits (e :: t) = [] ∧ leadingFraction (e :: t) = [] := by
  rcases he with rfl | rfl
  · exact ⟨rfl, by simp [leadingFraction]⟩
  · exact ⟨rfl, by simp [leadingFraction]⟩

theorem isPrefix_fraction {part : Text} (h : IsFraction part) (t : Text) :
    part <+: leadingFraction (part ++ t) := by
  cases h with
  | absent => exact List.nil_prefix
  | point hplaces =>
    rw [List.cons_append, leadingFraction_append hplaces]
    exact List.cons_prefix_cons.mpr ⟨rfl, List.prefix_append _ _⟩

theorem isPrefix_exponent {power : Text} (h : IsExponent power) (t : Text) :
    power <+: leadingExponent (power ++ t) := by
  cases h with
  | absent => exact List.nil_prefix
  | power he hs hplaces =>
    rw [List.cons_append, List.append_assoc, leadingExponent_append he hs hplaces,
      ← List.append_assoc]
    exact List.cons_prefix_cons.mpr ⟨rfl, List.prefix_append _ _⟩

theorem leadingFraction_before_exponentMark {part : Text} (h : IsFraction part) {e : Char}
    (he : e = 'E' ∨ e = 'e') (t : Text) : leadingFraction (part ++ e :: t) = part := by
  have hmark := leading_exponentMark he t
  cases h with
  | absent => exact hmark.2
  | point hplaces =>
    rw [List.cons_append, leadingFraction_append hplaces, hmark.1, List.append_nil]

/-- A fraction and an exponent are an initial piece of those that are read off. -/
theorem isPrefix_fraction_exponent {part power : Text} (hpart : IsFraction part)
    (hpower : IsExponent power) (t : Text) :
    let u := part ++ (power ++ t)
    part ++ power <+: leadingFraction u ++ leadingExponent (u.drop (leadingFraction u).length) := by
  intro u
  cases hpower with
  | absent =>
    rw [List.append_nil]
    exact (isPrefix_fraction hpart t).trans (List.prefix_append _ _)
  | @power e s places he hs hplaces =>
    have hexact : leadingFraction u = part := leadingFraction_before_exponentMark hpart he _
    rw [hexact, List.drop_left]
    exact (List.prefix_append_right_inj part).mpr (isPrefix_exponent (.power he hs hplaces) t)

/-- Unless both are missing, a fraction and an exponent start with no digit. -/
theorem leadingDigits_fraction_exponent {part power : Text} (hpart : IsFraction part)
    (hpower : IsExponent power) (t : Text) :
    part ++ power = [] ∨ leadingDigits (part ++ (power ++ t)) = [] := by
  cases hpart with
  | absent =>
    cases hpower with
    | absent => exact .inl rfl
    | power he _ _ => exact .inr (leading_exponentMark he _).1
  | point _ => exact .inr rfl

/-- A number is an initial piece of the one that is read off. -/
theorem isPrefix_leadingNumber_append {piece : Text} (h : IsNumber piece) (t : Text) :
    piece <+: leadingNumber (piece ++ t) := by
  cases h with
  | @mk whole part power hwhole hpart hpower =>
    rw [leadingNumber, List.append_assoc, List.append_assoc, leadingDigits_append hwhole]
    rcases leadingDigits_fraction_exponent hpart hpower t with hnothing | hnoDigit
    · rw [hnothing, List.append_nil, List.append_assoc]
      exact List.prefix_append _ _
    · rw [hnoDigit, List.append_nil, List.drop_left]
      exact (List.prefix_append_right_inj whole).mpr (isPrefix_fraction_exponent hpart hpower t)

/-! ## The longest number -/

theorem IsNumber.leadingDigits_ne_nil {piece : Text} (h : IsNumber piece) (t : Text) :
    leadingDigits (piece ++ t) ≠ [] := by
  cases h with
  | mk hwhole _ _ =>
    rw [List.append_assoc, leadingDigits_append hwhole]
    exact List.append_ne_nil_of_left_ne_nil hwhole.1 _

/-- The longest number that a text starts with is the one that is read off. -/
theorem longestNumber_iff {piece rest : Text} :
    LongestNumber piece rest ↔
      leadingDigits (piece ++ rest) ≠ [] ∧ leadingNumber (piece ++ rest) = piece := by
  constructor
  · rintro ⟨hnumber, hlongest⟩
    have hdigits := hnumber.leadingDigits_ne_nil rest
    have hshorter : leadingNumber (piece ++ rest) <+: piece :=
      hlongest _ (isNumber_leadingNumber hdigits) (isPrefix_leadingNumber _)
    have hlonger := isPrefix_leadingNumber_append hnumber rest
    exact ⟨hdigits, hshorter.eq_of_length_le hlonger.length_le⟩
  · rintro ⟨hdigits, hpiece⟩
    have hnumber := isNumber_leadingNumber hdigits
    rw [hpiece] at hnumber
    refine ⟨hnumber, ?_⟩
    intro other hother hbegins
    obtain ⟨u, hu⟩ := hbegins
    have := isPrefix_leadingNumber_append hother u
    rwa [hu, hpiece] at this

-- A letter E without digits behind its sign stays outside.
example : leadingNumber ['1', '.', '5', 'e', '+', 'x'] = ['1', '.', '5'] := by decide

end LexScan.Token
