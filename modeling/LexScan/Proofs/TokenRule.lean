import LexScan.Proofs.Lines
import LexScan.Proofs.NumberGrammar
import LexScan.Token.Rule

/-!
# What makes a token

How a token of each kind is written in front of the rest of its line, and that the
first rule that applies makes the token. `Written` and `IsFirst` say this without saying
how tokens are found.

Each rule can be read off the line: `read?` is what the rule for a kind takes, if it
applies. So at one place there is one token at most, and `leading?` finds it at every
place of a line.
-/

namespace LexScan.Token

/-- How a token of each kind is written in front of the rest of its line. -/
inductive Written : TokenKind → Text → Text → Prop where
  /-- Two slashes and all that follows them. -/
  | comment (said : Text) : Written .comment ('/' :: '/' :: said) []
  /-- A quote, anything up to the next quote, and that quote. -/
  | string {inside : Text} (rest : Text) (hinside : '"' ∉ inside) :
      Written .string ('"' :: (inside ++ ['"'])) rest
  | number {piece rest : Text} (h : LongestNumber piece rest) : Written .number piece rest
  /-- A letter or underscore and all letters, digits and underscores behind it. -/
  | word {c : Char} {more rest : Text} (hstart : isWordStart c = true)
      (hmore : ∀ d ∈ more, isWordPart d = true)
      (hend : ∀ d ∈ rest.head?, isWordPart d = false) : Written .word (c :: more) rest
  | symbol (c : Char) (rest : Text) : Written .symbol [c] rest

/-- The rules in the order in which they are tried. -/
def rank : TokenKind → Nat
  | .comment => 0
  | .string => 1
  | .number => 2
  | .word => 3
  | .symbol => 4

/-- A token by the first rule that applies. -/
def IsFirst (kind : TokenKind) (piece rest : Text) : Prop :=
  Written kind piece rest ∧ ∀ earlier other behind, rank earlier < rank kind →
    other ++ behind = piece ++ rest → ¬ Written earlier other behind

/-! ## Reading off one rule -/

/-- What the rule for a kind takes of a line, if it applies. -/
def read? : TokenKind → Text → Option Text
  | .comment, t => if ['/', '/'] <+: t then some t else none
  | .string, t => leadingString? t
  | .number, t => if leadingDigits t = [] then none else some (leadingNumber t)
  | .word, [] => none
  | .word, c :: t => if isWordStart c then some (c :: t.takeWhile isWordPart) else none
  | .symbol, [] => none
  | .symbol, c :: _ => some [c]

/-- A run is empty if what comes first fails its test. -/
theorem takeWhile_eq_nil_iff_head {p : Char → Bool} {t : Text} :
    t.takeWhile p = [] ↔ ∀ c ∈ t.head?, p c = false := by
  cases t with
  | nil => simp
  | cons c t => by_cases hc : p c = true <;> simp [hc]

theorem takeWhile_append_of_end {p : Char → Bool} {piece rest : Text}
    (hpiece : ∀ c ∈ piece, p c = true) (hend : ∀ c ∈ rest.head?, p c = false) :
    (piece ++ rest).takeWhile p = piece := by
  rw [List.takeWhile_append_of_pos hpiece, takeWhile_eq_nil_iff_head.mpr hend,
    List.append_nil]

/-- What stops a run fails its test. -/
theorem head?_dropWhile_eq_false {p : Char → Bool} {t : Text} :
    ∀ c ∈ (t.dropWhile p).head?, p c = false := by
  intro c hc
  have := List.head?_dropWhile_not p t
  rw [hc] at this
  simpa using this

/-- A run that is taken as far as it reaches, in front of what it leaves. -/
theorem run_of_takeWhile_eq {p : Char → Bool} {piece rest : Text}
    (h : (piece ++ rest).takeWhile p = piece) :
    (∀ c ∈ piece, p c = true) ∧ ∀ c ∈ rest.head?, p c = false := by
  have hboth : (piece ++ rest).takeWhile p ++ (piece ++ rest).dropWhile p = piece ++ rest :=
    List.takeWhile_append_dropWhile
  rw [h] at hboth
  have hrest := List.append_cancel_left hboth
  constructor
  · rw [← h]
    exact List.all_eq_true.mp List.all_takeWhile
  · rw [← hrest]
    exact head?_dropWhile_eq_false

theorem written_comment_iff {piece rest : Text} :
    Written .comment piece rest ↔ read? .comment (piece ++ rest) = some piece := by
  constructor
  · rintro ⟨said⟩
    have hstart : ['/', '/'] <+: '/' :: '/' :: said ++ [] := ⟨said, by simp⟩
    rw [read?, if_pos hstart, List.append_nil]
  · intro h
    rw [read?] at h
    split at h
    · next hstart =>
      obtain rfl := List.append_right_eq_self.mp (Option.some.inj h)
      obtain ⟨said, hsaid⟩ := hstart
      obtain rfl : '/' :: '/' :: said = piece := by simpa using hsaid
      exact .comment said
    · cases h

/-- A string ends at the first quote behind the one that it starts with. -/
theorem leadingString?_append {inside : Text} (h : '"' ∉ inside) (rest : Text) :
    leadingString? ('"' :: (inside ++ '"' :: rest)) = some ('"' :: (inside ++ ['"'])) := by
  have hrun : (inside ++ '"' :: rest).takeWhile (· != '"') = inside := by
    apply takeWhile_append_of_end
    · intro c hc
      have hne : c ≠ '"' := fun heq => h (heq ▸ hc)
      simpa using hne
    · rintro c ⟨⟩
      rfl
  have hmem : '"' ∈ inside ++ '"' :: rest :=
    List.mem_append_right inside List.mem_cons_self
  rw [leadingString?, if_pos ⟨rfl, hmem⟩, hrun]

theorem written_string_iff {piece rest : Text} :
    Written .string piece rest ↔ read? .string (piece ++ rest) = some piece := by
  constructor
  · intro h
    cases h with
    | string _ hinside => simpa [read?] using leadingString?_append hinside rest
  · intro h
    obtain ⟨c, t, rfl⟩ := List.exists_cons_of_ne_nil (leadingString?_isPrefix h).1
    rw [read?, List.cons_append, leadingString?] at h
    split at h
    · next hc =>
      obtain ⟨rfl, _⟩ := hc
      have hpiece := (List.cons.inj (Option.some.inj h)).2
      rw [← hpiece]
      refine .string rest ?_
      intro hquote
      have := List.all_eq_true.mp List.all_takeWhile _ hquote
      simp at this
    · cases h

theorem written_number_iff {piece rest : Text} :
    Written .number piece rest ↔ read? .number (piece ++ rest) = some piece := by
  have hwritten : Written .number piece rest ↔ LongestNumber piece rest :=
    ⟨fun h => by cases h; assumption, .number⟩
  rw [hwritten, longestNumber_iff, read?]
  by_cases hdigits : leadingDigits (piece ++ rest) = [] <;> simp [hdigits]

theorem written_word_iff {piece rest : Text} :
    Written .word piece rest ↔ read? .word (piece ++ rest) = some piece := by
  constructor
  · intro h
    cases h with
    | word hstart hmore hend =>
      rw [List.cons_append, read?, if_pos hstart, takeWhile_append_of_end hmore hend]
  · intro h
    cases piece with
    | nil =>
      cases rest with
      | nil => cases h
      | cons c t =>
        rw [List.nil_append, read?] at h
        split at h <;> cases h
    | cons c more =>
      rw [List.cons_append, read?] at h
      split at h
      · next hstart =>
        have hrun := run_of_takeWhile_eq (List.cons.inj (Option.some.inj h)).2
        exact .word hstart hrun.1 hrun.2
      · cases h

theorem written_symbol_iff {piece rest : Text} :
    Written .symbol piece rest ↔ read? .symbol (piece ++ rest) = some piece := by
  constructor
  · rintro ⟨c, _⟩
    rfl
  · intro h
    cases hall : piece ++ rest with
    | nil =>
      rw [hall] at h
      cases h
    | cons c t =>
      rw [hall] at h
      obtain rfl := Option.some.inj h
      exact .symbol c rest

theorem Written.ne_nil {kind : TokenKind} {piece rest : Text} (h : Written kind piece rest) :
    piece ≠ [] := by
  cases h with
  | number h => exact h.1.ne_nil
  | _ => exact List.cons_ne_nil _ _

/-- A token of a kind is written at the start of a text if its rule reads it off there. -/
theorem written_iff {kind : TokenKind} {piece rest : Text} :
    Written kind piece rest ↔ read? kind (piece ++ rest) = some piece := by
  cases kind with
  | word => exact written_word_iff
  | number => exact written_number_iff
  | string => exact written_string_iff
  | comment => exact written_comment_iff
  | symbol => exact written_symbol_iff

/-! ## The first rule -/

theorem rank_injective {a b : TokenKind} (h : rank a = rank b) : a = b := by
  cases a <;> cases b <;> first | rfl | cases h

/-- At one place there is one token. -/
theorem IsFirst.unique {kind kind' : TokenKind} {piece piece' rest rest' : Text}
    (h : IsFirst kind piece rest) (h' : IsFirst kind' piece' rest')
    (ht : piece ++ rest = piece' ++ rest') : kind = kind' ∧ piece = piece' ∧ rest = rest' := by
  have hrank : rank kind = rank kind' := by
    rcases Nat.lt_trichotomy (rank kind) (rank kind') with hlt | heq | hgt
    · exact absurd h.1 (h'.2 kind piece rest hlt ht)
    · exact heq
    · exact absurd h'.1 (h.2 kind' piece' rest' hgt ht.symm)
  obtain rfl := rank_injective hrank
  have hread := written_iff.mp h.1
  have hread' := written_iff.mp h'.1
  rw [← ht, hread] at hread'
  obtain rfl := Option.some.inj hread'
  exact ⟨rfl, rfl, List.append_cancel_left ht⟩

/-- `leading?` tries the rules in their order. -/
theorem read?_of_leading? {mode : LineBreakMode} {t piece : Text} {kind : TokenKind}
    (hfree : mode.BreakFree t) (h : leading? mode t = some (kind, piece)) :
    read? kind t = some piece ∧
      ∀ earlier, rank earlier < rank kind → read? earlier t = none := by
  revert h
  fun_cases leading? mode t with
  | case1 => exact fun h => by cases h
  | case2 c t hslashes =>
    rintro ⟨⟩
    have hbody : mode.body (c :: t) = c :: t := by
      simpa using LineBreakMode.body_append hfree []
    refine ⟨by rw [read?, if_pos hslashes, hbody], ?_⟩
    intro earlier hearlier
    cases earlier <;> cases hearlier
  | case3 c t hslashes found hfound =>
    rintro ⟨⟩
    refine ⟨hfound, ?_⟩
    intro earlier hearlier
    cases earlier with
    | comment => exact if_neg hslashes
    | _ => simp [rank] at hearlier
  | case4 c t hslashes hstring hdigit =>
    rintro ⟨⟩
    have hdigits : leadingDigits (c :: t) ≠ [] :=
      mt leadingDigits_eq_nil_iff.mp (not_not_intro hdigit)
    refine ⟨if_neg hdigits, ?_⟩
    intro earlier hearlier
    cases earlier with
    | comment => exact if_neg hslashes
    | string => exact hstring
    | _ => simp [rank] at hearlier
  | case5 c t hslashes hstring hdigit hstart =>
    rintro ⟨⟩
    refine ⟨if_pos hstart, ?_⟩
    intro earlier hearlier
    cases earlier with
    | comment => exact if_neg hslashes
    | string => exact hstring
    | number => exact if_pos (leadingDigits_eq_nil_iff.mpr hdigit)
    | _ => simp [rank] at hearlier
  | case6 c t hslashes hstring hdigit hstart =>
    rintro ⟨⟩
    refine ⟨rfl, ?_⟩
    intro earlier hearlier
    cases earlier with
    | comment => exact if_neg hslashes
    | string => exact hstring
    | number => exact if_pos (leadingDigits_eq_nil_iff.mpr hdigit)
    | word => exact if_neg hstart
    | symbol => simp [rank] at hearlier

theorem isFirst_of_leading? {mode : LineBreakMode} {piece rest : Text} {kind : TokenKind}
    (hfree : mode.BreakFree (piece ++ rest))
    (h : leading? mode (piece ++ rest) = some (kind, piece)) : IsFirst kind piece rest := by
  obtain ⟨hread, hearlier⟩ := read?_of_leading? hfree h
  refine ⟨written_iff.mpr hread, ?_⟩
  intro earlier other behind hlt ht hwritten
  have hother := written_iff.mp hwritten
  rw [ht, hearlier earlier hlt] at hother
  cases hother

theorem exists_leading? (mode : LineBreakMode) {t : Text} (h : t ≠ []) :
    ∃ kind piece, leading? mode t = some (kind, piece) := by
  fun_cases leading? mode t with
  | case1 => exact absurd rfl h
  | case2 => exact ⟨_, _, rfl⟩
  | case3 => exact ⟨_, _, rfl⟩
  | case4 => exact ⟨_, _, rfl⟩
  | case5 => exact ⟨_, _, rfl⟩
  | case6 => exact ⟨_, _, rfl⟩

/-- At every place of a line there is a token, by the first rule that applies. -/
theorem exists_isFirst {mode : LineBreakMode} {t : Text} (hfree : mode.BreakFree t)
    (h : t ≠ []) : ∃ kind piece rest, t = piece ++ rest ∧ piece ≠ [] ∧
      IsFirst kind piece rest ∧ leading? mode t = some (kind, piece) := by
  obtain ⟨kind, piece, hleading⟩ := exists_leading? mode h
  obtain ⟨hne, rest, rfl⟩ := leading?_isPrefix hleading
  exact ⟨kind, piece, rest, rfl, hne, isFirst_of_leading? hfree hleading, hleading⟩

theorem IsFirst.leading?_eq {mode : LineBreakMode} {kind : TokenKind} {piece rest : Text}
    (h : IsFirst kind piece rest) (hfree : mode.BreakFree (piece ++ rest)) :
    leading? mode (piece ++ rest) = some (kind, piece) := by
  have hne : piece ++ rest ≠ [] := List.append_ne_nil_of_left_ne_nil h.1.ne_nil rest
  obtain ⟨kind', piece', rest', ht, _, hfirst, hleading⟩ := exists_isFirst hfree hne
  obtain ⟨rfl, rfl, _⟩ := h.unique hfirst ht
  exact hleading

end LexScan.Token
