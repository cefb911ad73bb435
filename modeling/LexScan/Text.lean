/-!
# Texts and byte offsets

A text is a list of characters. Places in it are counted in bytes of its UTF-8
form, so not every number names a place: it may lie past the end or inside a
character. `from?` and `slice?` cut a text at offsets and answer `none` where
the offset is no boundary. By `from?_eq_some_iff` the boundaries are the sizes of
the initial pieces, and by `from?_add_take` whole characters lead from one to
another.
-/

namespace LexScan

/-- Characters in reading order. -/
abbrev Text := List Char

namespace Text

/-- Number of bytes in UTF-8. -/
def size : Text → Nat
  | [] => 0
  | c :: t => c.utf8Size + size t

/-- The text from byte offset `n` on. -/
def from? : Text → Nat → Option Text
  | t, 0 => some t
  | [], _ + 1 => none
  | c :: t, n + 1 =>
      if c.utf8Size ≤ n + 1 then from? t (n + 1 - c.utf8Size) else none

/-- The text before byte offset `n`. -/
def until? : Text → Nat → Option Text
  | _, 0 => some []
  | [], _ + 1 => none
  | c :: t, n + 1 =>
      if c.utf8Size ≤ n + 1 then (until? t (n + 1 - c.utf8Size)).map (c :: ·) else none

/-- The text between two byte offsets. -/
def slice? (t : Text) (first last : Nat) : Option Text :=
  if first ≤ last then (t.from? first).bind (·.until? (last - first)) else none

/-- A byte offset that is neither past the end nor inside a character. -/
def IsBoundary (t : Text) (n : Nat) : Prop := (t.from? n).isSome = true

instance (t : Text) (n : Nat) : Decidable (t.IsBoundary n) :=
  inferInstanceAs (Decidable (_ = true))

/-- Everything before the first place where `needle` starts. -/
def before (needle : Text) : Text → Text
  | [] => []
  | c :: t => if needle.isPrefixOf (c :: t) then [] else c :: before needle t

/-- The order of texts by their characters' code points, an initial piece first. It
is also the order of their bytes. -/
def notAfter : Text → Text → Bool
  | [], _ => true
  | _ :: _, [] => false
  | c :: s, d :: t => c.toNat < d.toNat || (c = d && notAfter s t)

/-- The decimal digits of a number. -/
def ofNat (n : Nat) : Text := Nat.toDigits 10 n

/-- The pieces between the occurrences of a character: one more than these. -/
def splitOn (separator : Char) : Text → List Text
  | [] => [[]]
  | c :: t =>
      if c = separator then [] :: splitOn separator t
      else match splitOn separator t with
        | [] => [[c]]
        | piece :: pieces => (c :: piece) :: pieces

/-- Text pieces with a separator between each two of them. -/
def join (separator : Text) : List Text → Text
  | [] => []
  | [piece] => piece
  | piece :: pieces => piece ++ separator ++ join separator pieces

@[simp] theorem size_nil : size [] = 0 := rfl

@[simp] theorem size_cons (c : Char) (t : Text) :
    size (c :: t) = c.utf8Size + size t := rfl

@[simp] theorem size_append (s t : Text) : size (s ++ t) = size s + size t := by
  induction s with
  | nil => simp
  | cons c s ih => simp only [List.cons_append, size_cons, ih, Nat.add_assoc]

theorem ofNat_ne_nil (n : Nat) : ofNat n ≠ [] := Nat.toDigits_ne_nil

theorem isDigit_of_mem_ofNat {n : Nat} {c : Char} (h : c ∈ ofNat n) : c.isDigit = true :=
  Nat.isDigit_of_mem_toDigits (by decide) (by decide) h

/-- The digits of a number are read back. -/
theorem ofDigitChars_ofNat (n : Nat) : Nat.ofDigitChars 10 (ofNat n) 0 = n :=
  Nat.ofDigitChars_ten_toDigits

/-! ## Boundaries -/

@[simp] theorem from?_zero (t : Text) : t.from? 0 = some t := by cases t <;> rfl

theorem from?_cons_add (c : Char) (t : Text) (n : Nat) :
    from? (c :: t) (c.utf8Size + n) = t.from? n := by
  have hc := c.utf8Size_pos
  obtain ⟨k, hk⟩ : ∃ k, c.utf8Size + n = k + 1 := ⟨c.utf8Size + n - 1, by omega⟩
  rw [hk, from?, if_pos (by omega), ← hk, Nat.add_sub_cancel_left]

theorem from?_append (s r : Text) : (s ++ r).from? s.size = some r := by
  induction s with
  | nil => simp
  | cons c s ih => rw [List.cons_append, size_cons, from?_cons_add, ih]

/-- A boundary is the number of bytes of an initial piece. -/
theorem from?_eq_some_iff {t r : Text} {n : Nat} :
    t.from? n = some r ↔ ∃ s, t = s ++ r ∧ n = s.size := by
  constructor
  · intro h
    fun_induction from? t n with
    | case1 t => exact ⟨[], by simpa using h, rfl⟩
    | case2 => simp at h
    | case3 c t n fits ih =>
        obtain ⟨s, rfl, hn⟩ := ih h
        exact ⟨c :: s, rfl, by rw [size_cons]; omega⟩
    | case4 => simp at h
  · rintro ⟨s, rfl, rfl⟩
    exact from?_append s r

/-- From one boundary to another, `k` characters further on. -/
theorem from?_add_take {t r : Text} {n : Nat} (h : t.from? n = some r) (k : Nat) :
    t.from? (n + size (r.take k)) = some (r.drop k) := by
  obtain ⟨s, rfl, rfl⟩ := from?_eq_some_iff.mp h
  exact from?_eq_some_iff.mpr ⟨s ++ r.take k, by simp, by simp⟩

/-- The end of the text lies as many bytes behind a boundary as remain there. -/
theorem size_of_from? {t r : Text} {n : Nat} (h : t.from? n = some r) :
    t.size = n + r.size := by
  obtain ⟨s, rfl, rfl⟩ := from?_eq_some_iff.mp h
  exact size_append s r

theorem IsBoundary.le_size {t : Text} {n : Nat} (h : t.IsBoundary n) : n ≤ t.size := by
  obtain ⟨r, hr⟩ := Option.isSome_iff_exists.mp h
  have := size_of_from? hr
  omega

/-! ## Slices -/

theorem until?_append (s r : Text) : (s ++ r).until? s.size = some s := by
  induction s with
  | nil => cases r <;> rfl
  | cons c s ih =>
      have hc := c.utf8Size_pos
      obtain ⟨k, hk⟩ : ∃ k, c.utf8Size + size s = k + 1 :=
        ⟨c.utf8Size + size s - 1, by omega⟩
      have hrest : k + 1 - c.utf8Size = size s := by omega
      rw [List.cons_append, size_cons, hk, until?, if_pos (by omega), hrest, ih]
      rfl

/-- What a text continues with at a boundary is the slice of that many bytes there. -/
theorem slice?_of_prefix {t r piece : Text} {n : Nat} (h : t.from? n = some r)
    (hp : piece <+: r) : t.slice? n (n + piece.size) = some piece := by
  obtain ⟨u, rfl⟩ := hp
  rw [slice?, if_pos (Nat.le_add_right _ _), h, Nat.add_sub_cancel_left]
  exact until?_append piece u

/-! ## Pieces -/

theorem before_prefix (needle t : Text) : before needle t <+: t := by
  induction t with
  | nil => exact List.nil_prefix
  | cons c t ih =>
      rw [before]
      split
      · exact List.nil_prefix
      · exact List.cons_prefix_cons.mpr ⟨rfl, ih⟩

theorem splitOn_ne_nil (separator : Char) (t : Text) : splitOn separator t ≠ [] := by
  cases t with
  | nil => simp [splitOn]
  | cons c t =>
      rw [splitOn]
      split
      · simp
      · split <;> simp

/-- Splitting loses nothing but the separators. -/
theorem join_splitOn (separator : Char) (t : Text) :
    join [separator] (splitOn separator t) = t := by
  induction t with
  | nil => rfl
  | cons c t ih =>
      have hne := splitOn_ne_nil separator t
      rw [splitOn]
      cases h : splitOn separator t with
      | nil => exact absurd h hne
      | cons piece pieces =>
          rw [h] at ih
          split
          · next hc => simp [join, ih, hc]
          · cases pieces with
            | nil => simpa [join] using ih
            | cons next rest => simpa [join] using ih

theorem join_cons (separator first : Text) (pieces : List Text) :
    join separator (first :: pieces) = first ++ pieces.flatMap (separator ++ ·) := by
  induction pieces generalizing first with
  | nil => simp [join]
  | cons piece pieces ih => simp [join, ih]

theorem join_cons_of_ne_nil {pieces : List Text} (h : pieces ≠ []) (separator first : Text) :
    join separator (first :: pieces) = first ++ separator ++ join separator pieces := by
  cases pieces with
  | nil => exact absurd rfl h
  | cons next rest => rfl

theorem join_append_cons (separator : Text) (pieces : List Text) (piece : Text)
    (rest : List Text) : join separator (pieces ++ piece :: rest) =
      pieces.flatMap (· ++ separator) ++ join separator (piece :: rest) := by
  induction pieces with
  | nil => rfl
  | cons first pieces ih =>
      have hne : pieces ++ piece :: rest ≠ [] := by simp
      rw [List.cons_append, join_cons_of_ne_nil hne, ih, List.flatMap_cons, List.append_assoc,
        List.append_assoc, List.append_assoc]

theorem splitOn_eq_splitOn (separator : Char) (t : Text) :
    splitOn separator t = List.splitOn separator t := by
  induction t with
  | nil => rfl
  | cons c t ih =>
      rw [splitOn, ih, List.splitOn_cons_eq_if_modifyHead]
      by_cases hc : c = separator
      · simp [hc]
      · obtain ⟨piece, pieces, h⟩ :=
          List.exists_cons_of_ne_nil (List.splitOn_ne_nil separator t)
        simp [hc, h]

theorem join_eq_intercalate (separator : Text) (pieces : List Text) :
    join separator pieces = separator.intercalate pieces := by
  fun_induction join separator pieces with
  | case1 => rfl
  | case2 piece => simp
  | case3 piece pieces hne ih =>
      obtain ⟨next, rest, rfl⟩ := List.exists_cons_of_ne_nil hne
      simp [ih, List.intercalate_cons_cons]

/-- What was joined is found again where no piece contains the separator. -/
theorem splitOn_join {separator : Char} {pieces : List Text}
    (h : ∀ piece ∈ pieces, separator ∉ piece) (hne : pieces ≠ []) :
    splitOn separator (join [separator] pieces) = pieces := by
  rw [splitOn_eq_splitOn, join_eq_intercalate]
  exact List.splitOn_intercalate separator h hne

theorem splitOn_of_not_mem {separator : Char} {t : Text} (h : separator ∉ t) :
    splitOn separator t = [t] := by
  rw [splitOn_eq_splitOn]
  exact List.splitOn_eq_singleton h

theorem not_mem_of_mem_splitOn {separator : Char} {t piece : Text}
    (h : piece ∈ splitOn separator t) : separator ∉ piece := by
  induction t generalizing piece with
  | nil =>
      obtain rfl := List.mem_singleton.mp h
      exact List.not_mem_nil
  | cons c t ih =>
      rw [splitOn] at h
      split at h
      · rcases List.mem_cons.mp h with rfl | h
        · exact List.not_mem_nil
        · exact ih h
      · next hc =>
          cases hpieces : splitOn separator t with
          | nil => exact absurd hpieces (splitOn_ne_nil separator t)
          | cons first pieces =>
              rw [hpieces] at h ih
              rcases List.mem_cons.mp h with rfl | h
              · simp [Ne.symm hc, ih (List.mem_cons_self ..)]
              · exact ih (List.mem_cons_of_mem _ h)

theorem size_pos {t : Text} (h : t ≠ []) : 0 < t.size := by
  obtain ⟨c, u, rfl⟩ := List.exists_cons_of_ne_nil h
  have := c.utf8Size_pos
  rw [size_cons]
  omega

theorem length_le_size (t : Text) : t.length ≤ size t := by
  induction t with
  | nil => simp
  | cons c t ih =>
      have := c.utf8Size_pos
      simp only [List.length_cons, size_cons]
      omega

end Text

end LexScan
