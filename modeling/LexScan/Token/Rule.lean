import LexScan.Cursor.Call.Lemmas
import LexScan.Token.Number

/-!
# The first token of a text

At a place that is not blank the first rule that applies makes the token: a comment
from two slashes to the end of the line, a string between two double quotes, a number,
a word of letters, digits and underscores that starts with no digit, or else one
character as a symbol. A quote that is never closed is a symbol.

The rules are tried one after the other by a cursor. `leading?` tells the same from
the text alone, and by `value_next` the two agree: unless the text has ended there is
a token, so the failures that could end a scan never come up.
-/

namespace LexScan

inductive TokenKind where
  | word | number | string | comment | symbol
deriving DecidableEq, Repr

namespace Token

def isWordStart (c : Char) : Bool := CharClass.letter.contains c || c == '_'

def isWordPart (c : Char) : Bool := CharClass.letterOrDigit.contains c || c == '_'

/-! ## Trying the rules -/

/-- Whether a closed string starts here, and the cursor behind it. A quote that is never
closed is left alone: the cursor goes back to it. -/
def string (c : Cursor) : Logged (Except ScanError (Bool × Cursor)) := do
  match ← c.checkLogged (.char '"') with
  | (.error _, same) => pure (.ok (false, same))
  | (.ok _, inside) =>
      match ← (inside.take (.till ['"'])).2.checkLogged (.char '"') with
      | (.ok _, after) => pure (.ok (true, after))
      | (.error _, atEnd) => do
          Logged.trace ("Unterminated string at ".toList ++ atEnd.textPosition.display)
          match ← atEnd.setPositionLogged c.offset with
          | (.ok _, back) => pure (.ok (false, back))
          | (.error e, _) => pure (.error e)

/-- Whether a word starts here, and the cursor behind it. -/
def word (c : Cursor) : Bool × Cursor :=
  let (first, behind) := c.take (.satisfying isWordStart)
  if first.isEmpty then (false, behind)
  else (true, (behind.take (.satisfying isWordPart)).2)

/-- The token at a place that is not blank, and the cursor behind it. -/
def next (c : Cursor) : Logged (Except ScanError (TokenKind × Cursor)) := do
  match ← c.checkLogged (.literal ['/', '/']) with
  | (.ok _, after) => pure (.ok (.comment, (after.take (.restOfLine false)).2))
  | (.error _, c) =>
      match ← string c with
      | .error e => pure (.error e)
      | .ok (true, after) => pure (.ok (.string, after))
      | .ok (false, c) =>
          match ← c.checkLogged (.lookingAt number) with
          | (.ok _, after) => pure (.ok (.number, after))
          | (.error _, c) =>
              match word c with
              | (true, after) => pure (.ok (.word, after))
              | (false, c) =>
                  match ← c.checkLogged .anyChar with
                  | (.ok _, after) => pure (.ok (.symbol, after))
                  | (.error e, _) => pure (.error e)

/-! ## Reading off the text -/

/-- The string that a text starts with. -/
def leadingString? : Text → Option Text
  | [] => none
  | c :: t =>
      if c = '"' ∧ '"' ∈ t then some (c :: (t.takeWhile (· != '"') ++ ['"'])) else none

/-- The token that a text starts with, by kind and as a piece of it. -/
def leading? (mode : LineBreakMode) : Text → Option (TokenKind × Text)
  | [] => none
  | c :: t =>
      if ['/', '/'] <+: c :: t then some (.comment, mode.body (c :: t))
      else match leadingString? (c :: t) with
        | some piece => some (.string, piece)
        | none =>
            if c.isDigit then some (.number, leadingNumber (c :: t))
            else if isWordStart c then some (.word, c :: t.takeWhile isWordPart)
            else some (.symbol, [c])

/-! ## Each rule by what it reads -/

theorem before_eq_takeWhile (x : Char) (t : Text) :
    Text.before [x] t = t.takeWhile (· != x) := by
  induction t with
  | nil => rfl
  | cons c t ih =>
    by_cases hc : x = c
    · simp [Text.before, hc]
    · simp [Text.before, hc, Ne.symm hc, ih]

theorem head?_dropWhile_ne_eq_some_iff {x : Char} {t : Text} :
    (t.dropWhile (· != x)).head? = some x ↔ x ∈ t := by
  induction t with
  | nil => simp
  | cons c t ih =>
    by_cases hc : c = x
    · simp [hc]
    · simpa [hc, Ne.symm hc] using ih

theorem takeWhile_append_takeWhile {p q : Char → Bool} (h : ∀ c, p c = true → q c = true)
    (t : Text) : t.takeWhile p ++ (t.dropWhile p).takeWhile q = t.takeWhile q := by
  have hall : ∀ c ∈ t.takeWhile p, q c = true := fun c hc =>
    h c (List.all_eq_true.mp List.all_takeWhile c hc)
  have happend : (t.takeWhile p ++ t.dropWhile p).takeWhile q =
      t.takeWhile p ++ (t.dropWhile p).takeWhile q := List.takeWhile_append_of_pos hall
  rw [List.takeWhile_append_dropWhile] at happend
  exact happend.symm

theorem isWordPart_of_isWordStart {c : Char} (h : isWordStart c = true) :
    isWordPart c = true := by
  simp only [isWordStart, isWordPart, CharClass.contains, Bool.or_eq_true] at h ⊢
  rcases h with h | h
  · exact .inl (.inl h)
  · exact .inr h

/-- Behind a quote the cursor comes to the next quote, or to the end and then back. -/
theorem value_string_of_quote {c : Cursor} {t : Text} (h : c.remaining = '"' :: t) :
    (string c).value = .ok (if '"' ∈ t then (true, c.advance ((t.takeWhile (· != '"')).length + 2))
      else (false, c)) := by
  have hopen : c.remaining.head? = some '"' := by rw [h, List.head?_cons]
  have hinside : (c.advance 1).remaining = t := by
    rw [Cursor.remaining_advance, h]
    rfl
  obtain ⟨atQuote, hatQuote⟩ :
      ∃ d, d = c.advance (1 + (t.takeWhile (· != '"')).length) := ⟨_, rfl⟩
  have htill : ((c.advance 1).take (.till ['"'])).2 = atQuote := by
    rw [Cursor.take, Cursor.Run.piece, hinside, before_eq_takeWhile, Cursor.advance_advance,
      hatQuote]
  have hbehind : atQuote.remaining = t.dropWhile (· != '"') := by
    rw [hatQuote, ← Cursor.advance_advance, ← hinside, Cursor.remaining_advance_takeWhile]
  have hhead : atQuote.remaining.head? = some '"' ↔ '"' ∈ t := by
    rw [hbehind, head?_dropWhile_ne_eq_some_iff]
  rw [string, Logged.value_bind, Cursor.value_checkLogged, Cursor.check_char_of_head hopen]
  simp only [Logged.value_bind, Cursor.value_checkLogged, htill]
  by_cases hclosed : '"' ∈ t
  · rw [Cursor.check_char_of_head (hhead.mpr hclosed), if_pos hclosed, hatQuote,
      Cursor.advance_advance, Nat.add_comm 1, Nat.add_assoc]
    rfl
  · have hback : atQuote.setPosition c.offset = (.ok (), c) :=
      Cursor.setPosition_offset (hatQuote ▸ rfl) (hatQuote ▸ rfl)
    obtain ⟨e, he⟩ := Cursor.check_char_of_not_head (mt hhead.mp hclosed)
    rw [he, if_neg hclosed]
    simp [hback]

theorem leadingString?_of_not_head {t : Text} (h : t.head? ≠ some '"') :
    leadingString? t = none := by
  cases t with
  | nil => rfl
  | cons x t =>
    apply if_neg
    rintro ⟨rfl, _⟩
    exact h rfl

/-- A string is found by a cursor where the text starts with one, and otherwise the
cursor has come back. -/
theorem value_string (c : Cursor) :
    (string c).value = .ok (match leadingString? c.remaining with
      | some piece => (true, c.advance piece.length)
      | none => (false, c)) := by
  by_cases hopen : c.remaining.head? = some '"'
  · obtain ⟨t, ht⟩ := List.head?_eq_some_iff.mp hopen
    rw [value_string_of_quote ht, ht, leadingString?]
    by_cases hclosed : '"' ∈ t
    · simp [hclosed]
    · simp [hclosed]
  · obtain ⟨e, he⟩ := Cursor.check_char_of_not_head hopen
    rw [string, Logged.value_bind, Cursor.value_checkLogged, he,
      leadingString?_of_not_head hopen]
    rfl

theorem word_eq (c : Cursor) :
    word c = if c.remaining.head?.any isWordStart then
        (true, c.advance (c.remaining.takeWhile isWordPart).length)
      else (false, c) := by
  have hall : c.remaining.takeWhile isWordStart ++
      (c.remaining.dropWhile isWordStart).takeWhile isWordPart =
        c.remaining.takeWhile isWordPart :=
    takeWhile_append_takeWhile (fun _ h => isWordPart_of_isWordStart h) c.remaining
  rw [word]
  simp only [Cursor.take, Cursor.Run.piece, Cursor.remaining_advance_takeWhile,
    Cursor.advance_advance, ← List.length_append, hall]
  cases ht : c.remaining with
  | nil => simp
  | cons x t => by_cases hx : isWordStart x = true <;> simp [hx]

theorem leadingDigits_eq_nil_iff {c : Char} {t : Text} :
    leadingDigits (c :: t) = [] ↔ ¬ c.isDigit = true := by
  by_cases hc : c.isDigit = true <;> simp [leadingDigits, hc]

/-- The pattern for numbers finds a number in front of a digit, and nowhere else. -/
theorem check_number (c : Cursor) :
    c.check (.lookingAt number) =
      if leadingDigits c.remaining = [] then (.error ⟨.noMatch, c.offset⟩, c)
      else (.ok (leadingNumber c.remaining), c.advance (leadingNumber c.remaining).length) := by
  have hmatch := atStart?_number c.remaining
  by_cases hdigits : leadingDigits c.remaining = []
  · rw [if_pos hdigits] at hmatch
    rw [if_pos hdigits, Cursor.check_lookingAt_of_none hmatch]
  · rw [if_neg hdigits] at hmatch
    rw [if_neg hdigits, Cursor.check_lookingAt_of_some hmatch]

/-- Two slashes end no line. -/
theorem body_slashes (mode : LineBreakMode) (t : Text) :
    mode.body ('/' :: '/' :: t) = '/' :: '/' :: mode.body t := by
  cases mode <;> rfl

section

variable {c : Cursor}

theorem value_next_of_slashes {t : Text} (h : c.remaining = '/' :: '/' :: t) :
    (next c).value = .ok (.comment, c.advance (c.mode.body c.remaining).length) := by
  have hslashes : ['/', '/'] <+: c.remaining := ⟨t, h.symm⟩
  have hbehind : (c.advance 2).remaining = t := by
    rw [Cursor.remaining_advance, h]
    rfl
  have hrest : ((c.advance 2).take (.restOfLine false)).2 =
      c.advance (2 + (c.mode.body t).length) := by
    rw [Cursor.take, hbehind, Cursor.advance_advance]
    rfl
  rw [next, Logged.value_bind, Cursor.value_checkLogged, Cursor.check_literal_of_isPrefix hslashes,
    h, body_slashes]
  simp only [Logged.value_pure, List.length_cons, List.length_nil, hrest]
  rw [Nat.add_comm]

theorem value_next_of_string {piece : Text} (hslashes : ¬ ['/', '/'] <+: c.remaining)
    (h : leadingString? c.remaining = some piece) :
    (next c).value = .ok (.string, c.advance piece.length) := by
  obtain ⟨e, he⟩ := Cursor.check_literal_of_not_isPrefix hslashes
  rw [next, Logged.value_bind, Cursor.value_checkLogged, he]
  simp only [Logged.value_bind, value_string, h]
  rfl

/-- Where neither a comment nor a string starts, the pattern for numbers is tried, then a
word, and then any character is taken. -/
theorem value_next_of_no_string (hslashes : ¬ ['/', '/'] <+: c.remaining)
    (hstring : leadingString? c.remaining = none) :
    (next c).value = match c.check (.lookingAt number) with
      | (.ok _, after) => .ok (.number, after)
      | (.error _, c) => match word c with
        | (true, after) => .ok (.word, after)
        | (false, c) => match c.check .anyChar with
          | (.ok _, after) => .ok (.symbol, after)
          | (.error e, _) => .error e := by
  obtain ⟨e, he⟩ := Cursor.check_literal_of_not_isPrefix hslashes
  rw [next, Logged.value_bind, Cursor.value_checkLogged, he]
  simp only [Logged.value_bind, value_string, hstring, Cursor.value_checkLogged]
  obtain ⟨found, behind⟩ := c.check (.lookingAt number)
  cases found with
  | ok piece => rfl
  | error e =>
    dsimp only
    obtain ⟨isWord, behind⟩ := word behind
    cases isWord with
    | true => rfl
    | false =>
      simp only [Logged.value_bind, Cursor.value_checkLogged]
      obtain ⟨taken, behind⟩ := behind.check .anyChar
      cases taken <;> rfl

end

/-- The rules that a cursor tries find the token that the text starts with. Only at the
end of the text they find none. -/
theorem value_next (c : Cursor) :
    (next c).value = match leading? c.mode c.remaining with
      | some (kind, piece) => .ok (kind, c.advance piece.length)
      | none => .error ⟨.outOfRange, c.offset⟩ := by
  by_cases hslashes : ['/', '/'] <+: c.remaining
  · obtain ⟨t, ht⟩ := hslashes
    have hleading : leading? c.mode c.remaining = some (.comment, c.mode.body c.remaining) := by
      have hstart : ['/', '/'] <+: '/' :: '/' :: t := ⟨t, rfl⟩
      rw [← ht, List.cons_append, List.singleton_append, leading?, if_pos hstart]
    rw [value_next_of_slashes ht.symm, hleading]
  · cases hstring : leadingString? c.remaining with
    | some piece =>
      rw [value_next_of_string hslashes hstring]
      cases ht : c.remaining with
      | nil =>
        rw [ht] at hstring
        cases hstring
      | cons x t =>
        rw [ht] at hslashes hstring
        rw [leading?, if_neg hslashes, hstring]
    | none =>
      rw [value_next_of_no_string hslashes hstring]
      rw [check_number]
      cases ht : c.remaining with
      | nil =>
        have hany : c.check .anyChar = (.error ⟨.outOfRange, c.offset⟩, c) :=
          Cursor.check_of_error (by rw [ht]; rfl)
        simp [leadingDigits, word_eq, ht, hany, leading?]
      | cons x t =>
        rw [ht] at hslashes hstring
        rw [leading?, if_neg hslashes, hstring]
        by_cases hdigit : x.isDigit = true
        · have hdigits : leadingDigits (x :: t) ≠ [] :=
            mt leadingDigits_eq_nil_iff.mp (not_not_intro hdigit)
          simp [hdigits, hdigit]
        · rw [if_pos (leadingDigits_eq_nil_iff.mpr hdigit)]
          by_cases hstart : isWordStart x = true
          · have hword : (x :: t).takeWhile isWordPart = x :: t.takeWhile isWordPart :=
              List.takeWhile_cons_of_pos (isWordPart_of_isWordStart hstart)
            simp [word_eq, ht, hdigit, hstart, hword]
          · have hany : c.check .anyChar = (.ok [x], c.advance 1) :=
              Cursor.check_of_ok (by rw [ht]; rfl)
            simp [word_eq, ht, hdigit, hstart, hany]

theorem ne_nil_of_leading? {mode : LineBreakMode} {t : Text} {found : TokenKind × Text}
    (h : leading? mode t = some found) : t ≠ [] := by
  rintro rfl
  cases h

theorem leadingString?_isPrefix {t piece : Text} (h : leadingString? t = some piece) :
    piece ≠ [] ∧ piece <+: t := by
  cases t with
  | nil => cases h
  | cons c t =>
    rw [leadingString?] at h
    split at h
    · next hc =>
      obtain ⟨rfl, hclosed⟩ := hc
      obtain rfl := Option.some.inj h
      obtain ⟨u, hu⟩ := List.head?_eq_some_iff.mp (head?_dropWhile_ne_eq_some_iff.mpr hclosed)
      have hall : t.takeWhile (· != '"') ++ '"' :: u = t := by
        rw [← hu, List.takeWhile_append_dropWhile]
      exact ⟨List.cons_ne_nil _ _, u, by simp [hall]⟩
    · cases h

/-- The token that a text starts with takes a character at least. -/
theorem leading?_isPrefix {mode : LineBreakMode} {t piece : Text} {kind : TokenKind}
    (h : leading? mode t = some (kind, piece)) : piece ≠ [] ∧ piece <+: t := by
  revert h
  fun_cases leading? mode t with
  | case1 => exact fun h => by cases h
  | case2 c t hslashes =>
    rintro ⟨⟩
    obtain ⟨u, hu⟩ := hslashes
    have hbody : mode.body (c :: t) ≠ [] := by
      rw [← hu, List.cons_append, List.singleton_append, body_slashes]
      exact List.cons_ne_nil _ _
    exact ⟨hbody, List.takeWhile_prefix _⟩
  | case3 c t _ found hfound =>
    rintro ⟨⟩
    exact leadingString?_isPrefix hfound
  | case4 c t _ _ hdigit =>
    rintro ⟨⟩
    have hnumber : leadingNumber (c :: t) ≠ [] := by
      rw [leadingNumber, leadingDigits_cons_of_pos hdigit]
      exact List.cons_ne_nil _ _
    exact ⟨hnumber, isPrefix_leadingNumber _⟩
  | case5 c t _ _ _ hstart =>
    rintro ⟨⟩
    exact ⟨List.cons_ne_nil _ _, List.cons_prefix_cons.mpr ⟨rfl, List.takeWhile_prefix _⟩⟩
  | case6 c t =>
    rintro ⟨⟩
    exact ⟨List.cons_ne_nil _ _, t, rfl⟩

/-- Every token takes a character at least. -/
theorem length_lt_of_next {c after : Cursor} {kind : TokenKind}
    (h : (next c).value = .ok (kind, after)) :
    after.remaining.length < c.remaining.length := by
  rw [value_next] at h
  cases hleading : leading? c.mode c.remaining with
  | none =>
    rw [hleading] at h
    cases h
  | some found =>
    obtain ⟨k, piece⟩ := found
    rw [hleading] at h
    obtain ⟨rfl, rfl⟩ := Prod.mk.inj (Except.ok.inj h)
    have hpiece := List.length_pos_iff.mpr (leading?_isPrefix hleading).1
    have hremaining := List.length_pos_iff.mpr (ne_nil_of_leading? hleading)
    rw [Cursor.remaining_advance, List.length_drop]
    omega

end Token

end LexScan
