import LexScan.Text

/-!
# Line terminators

Two conventions for what ends a line. In both of them a carriage return with a
line feed directly after it is one terminator, never two. A line is a body
without break characters and, except perhaps for the last one, a terminator.
-/

namespace LexScan

/-- Which characters end a line. -/
inductive LineBreakMode where
  /-- CRLF, LF and CR. -/
  | ascii
  /-- These and VT, FF, NEL, LINE SEPARATOR and PARAGRAPH SEPARATOR. -/
  | unicode
deriving DecidableEq, Repr

namespace LineBreakMode

def name : LineBreakMode → Text
  | ascii => "ascii".toList
  | unicode => "unicode".toList

/-- Characters that end a line when they stand alone. -/
def isBreak : LineBreakMode → Char → Bool
  | ascii, c => c = '\n' || c = '\r'
  | unicode, c =>
      c = '\n' || c = '\r' || c = '\x0b' || c = '\x0c' || c = '\u0085'
        || c = '\u2028' || c = '\u2029'

/-- The terminator that the text starts with. -/
def terminator? (mode : LineBreakMode) : Text → Option Text
  | [] => none
  | c :: t =>
      if c = '\r' ∧ t.head? = some '\n' then some ['\r', '\n']
      else if mode.isBreak c then some [c]
      else none

/-- The body of the first line. -/
def body (mode : LineBreakMode) (t : Text) : Text := t.takeWhile (!mode.isBreak ·)

/-- The text after the body of its first line: nothing, or a terminator first. -/
def afterBody (mode : LineBreakMode) (t : Text) : Text := t.dropWhile (!mode.isBreak ·)

/-- Start and end, in bytes, of the first terminator of the text. -/
def findTerminator? (mode : LineBreakMode) (t : Text) : Option (Nat × Nat) :=
  (mode.terminator? (mode.afterBody t)).map fun terminator =>
    ((mode.body t).size, (mode.body t).size + terminator.size)

/-- The first line of the text, with its terminator or without. -/
def line (mode : LineBreakMode) (withTerminator : Bool) (t : Text) : Text :=
  if withTerminator then mode.body t ++ (mode.terminator? (mode.afterBody t)).getD []
  else mode.body t

@[simp] theorem body_nil (mode : LineBreakMode) : mode.body [] = [] := rfl

@[simp] theorem afterBody_nil (mode : LineBreakMode) : mode.afterBody [] = [] := rfl

theorem body_append_afterBody (mode : LineBreakMode) (t : Text) :
    mode.body t ++ mode.afterBody t = t := List.takeWhile_append_dropWhile

theorem from?_body (mode : LineBreakMode) (t : Text) :
    t.from? (mode.body t).size = some (mode.afterBody t) :=
  Text.from?_eq_some_iff.mpr ⟨_, (mode.body_append_afterBody t).symm, rfl⟩

theorem isBreak_of_mem_body {mode : LineBreakMode} {t : Text} {c : Char}
    (h : c ∈ mode.body t) : mode.isBreak c = false := by
  simpa using List.all_eq_true.mp (List.all_takeWhile (l := t)) c h

theorem terminator?_prefix {mode : LineBreakMode} {t terminator : Text}
    (h : mode.terminator? t = some terminator) : terminator <+: t := by
  cases t with
  | nil => simp [terminator?] at h
  | cons c t =>
      rw [terminator?] at h
      split at h
      · next hc =>
          obtain ⟨rfl, hd⟩ := hc
          obtain ⟨u, rfl⟩ := List.head?_eq_some_iff.mp hd
          obtain rfl := Option.some.inj h
          exact ⟨u, rfl⟩
      · split at h
        · obtain rfl := Option.some.inj h
          exact ⟨t, rfl⟩
        · simp at h

theorem terminator?_ne_nil {mode : LineBreakMode} {t terminator : Text}
    (h : mode.terminator? t = some terminator) : terminator ≠ [] := by
  intro hnil
  subst hnil
  cases t with
  | nil => simp [terminator?] at h
  | cons c t =>
      rw [terminator?] at h
      split at h
      · simp at h
      · split at h <;> simp at h

/-- Where the text does not start with CRLF, a break character is a terminator. -/
theorem terminator?_of_not_crlf (mode : LineBreakMode) {c : Char} {t : Text}
    (h : ¬ (c = '\r' ∧ t.head? = some '\n')) :
    mode.terminator? (c :: t) = if mode.isBreak c then some [c] else none := by
  rw [terminator?, if_neg h]

theorem exists_terminator? {mode : LineBreakMode} {c : Char} (h : mode.isBreak c = true)
    (t : Text) : ∃ terminator, mode.terminator? (c :: t) = some terminator := by
  rw [terminator?, if_pos h]
  split
  · exact ⟨_, rfl⟩
  · exact ⟨_, rfl⟩

/-- What follows a body is the end of the text or a break character. -/
theorem isBreak_of_afterBody {mode : LineBreakMode} {t u : Text} {c : Char}
    (h : mode.afterBody t = c :: u) : mode.isBreak c = true := by
  have hhead := List.head?_dropWhile_not (!mode.isBreak ·) t
  rw [← afterBody, h] at hhead
  simpa using hhead

/-- Where no terminator follows the body, the body is the whole text. -/
theorem body_eq_self {mode : LineBreakMode} {t : Text}
    (h : mode.terminator? (mode.afterBody t) = none) : mode.body t = t := by
  have happend := mode.body_append_afterBody t
  cases hafter : mode.afterBody t with
  | nil => rwa [hafter, List.append_nil] at happend
  | cons c u =>
    obtain ⟨terminator, ht⟩ := exists_terminator? (isBreak_of_afterBody hafter) u
    rw [hafter, ht] at h
    cases h

theorem line_prefix (mode : LineBreakMode) (withTerminator : Bool) (t : Text) :
    mode.line withTerminator t <+: t := by
  rw [line]
  split
  · cases h : mode.terminator? (mode.afterBody t) with
    | none => exact ⟨mode.afterBody t, by simp [body_append_afterBody]⟩
    | some terminator =>
        obtain ⟨u, hu⟩ := terminator?_prefix h
        exact ⟨u, by simp [List.append_assoc, hu, body_append_afterBody]⟩
  · exact ⟨mode.afterBody t, body_append_afterBody mode t⟩

theorem line_ne_nil (mode : LineBreakMode) {t : Text} (h : t ≠ []) :
    mode.line true t ≠ [] := by
  have happend := mode.body_append_afterBody t
  rw [line, if_pos rfl]
  cases hafter : mode.afterBody t with
  | nil =>
    rw [hafter, List.append_nil] at happend
    rw [happend]
    exact List.append_ne_nil_of_left_ne_nil h _
  | cons c u =>
    obtain ⟨terminator, ht⟩ := exists_terminator? (isBreak_of_afterBody hafter) u
    rw [ht]
    exact List.append_ne_nil_of_right_ne_nil _ (terminator?_ne_nil ht)

end LineBreakMode

end LexScan
