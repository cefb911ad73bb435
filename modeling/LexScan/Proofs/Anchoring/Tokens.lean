import LexScan.Pattern.Reader

/-!
# Tokens in front of a closing parenthesis

A text that can be cut into tokens is cut into the same ones where a closing parenthesis
follows it, which is then a token of its own. This is a fact about each kind of token: none
takes the parenthesis in, and none is read otherwise because it is there. The parenthesis
ends no escape, no count and no bracket class, and it makes no repetition lazy.

The converse fails. A text that ends in a backslash, or within a flag, may become readable
by what is put behind it.
-/

namespace LexScan.Pattern

variable {t rest : Text} {token : Token}

/-! ## Pieces of the text -/

theorem head?_append_close {c : Char} (hc : c ≠ ')') (t : Text) :
    (t ++ [')']).head? = some c ↔ t.head? = some c := by
  cases t with
  | nil => simp [hc.symm]
  | cons d t => simp

theorem ne_cons_append_close {c : Char} (hc : c ≠ ')') (h : ∀ u, t = c :: u → False) (u : Text) :
    t ++ [')'] = c :: u → False := by
  intro hu
  have hhead : t.head? = some c := (head?_append_close hc t).mp (by rw [hu]; rfl)
  obtain ⟨v, hv⟩ := List.head?_eq_some_iff.mp hhead
  exact h v hv

theorem takeWhile_append_close {test : Char → Bool} (htest : test ')' = false) (t : Text) :
    (t ++ [')']).takeWhile test = t.takeWhile test := by
  induction t with
  | nil => simp [htest]
  | cons c t ih => simp only [List.cons_append, List.takeWhile_cons, ih]

theorem dropWhile_append_close {test : Char → Bool} (htest : test ')' = false) (t : Text) :
    (t ++ [')']).dropWhile test = t.dropWhile test ++ [')'] := by
  induction t with
  | nil => simp [htest]
  | cons c t ih =>
    by_cases hc : test c = true
    · simpa [hc] using ih
    · simp [hc]

/-! ## Bracket classes -/

theorem startsClassOperation_append (t : Text) :
    startsClassOperation (t ++ [')']) = startsClassOperation t := by
  match t with
  | [] => rfl
  | [c] =>
    unfold startsClassOperation
    split <;> simp_all
  | c :: d :: t =>
    unfold startsClassOperation
    split <;> simp_all

theorem classChar?_append {c : Char} (h : classChar? t = some (c, rest)) :
    classChar? (t ++ [')']) = some (c, rest ++ [')']) := by
  cases t with
  | nil => cases h
  | cons d t =>
    rw [List.cons_append]
    unfold classChar? at h ⊢
    dsimp only at h ⊢
    split at h
    · next hd =>
      rw [if_pos hd]
      cases t with
      | nil => cases h
      | cons e t =>
        obtain ⟨found, hfound, heq⟩ := Option.map_eq_some_iff.mp h
        obtain ⟨rfl, rfl⟩ := Prod.mk.inj heq
        exact Option.map_eq_some_iff.mpr ⟨found, hfound, rfl⟩
    · next hd =>
      obtain ⟨rfl, rfl⟩ := Prod.mk.inj (Option.some.inj h)
      rw [if_neg hd]

/-- A member of a bracket class that begins with `lo`: a range if a hyphen follows that is
neither the last member nor the first of two hyphens, and else `lo` alone. -/
def memberFrom? (lo : Char) : Text → Option ((Char × Char) × Text)
  | '-' :: u =>
      if u.head? = some ']' ∨ u.head? = some '-' then some ((lo, lo), '-' :: u)
      else (classChar? u).bind fun (hi, v) =>
        if lo.toNat ≤ hi.toNat then some ((lo, hi), v) else none
  | u => some ((lo, lo), u)

theorem memberFrom?_alone (lo : Char) (h : ∀ u, t = '-' :: u → False) :
    memberFrom? lo t = some ((lo, lo), t) := by
  rw [memberFrom?]
  exact h

theorem memberFrom?_append {lo : Char} {range : Char × Char}
    (h : memberFrom? lo t = some (range, rest)) :
    memberFrom? lo (t ++ [')']) = some (range, rest ++ [')']) := by
  unfold memberFrom? at h
  split at h
  · next u =>
    have hlast_iff : ((u ++ [')']).head? = some ']' ∨ (u ++ [')']).head? = some '-') ↔
        (u.head? = some ']' ∨ u.head? = some '-') :=
      or_congr (head?_append_close (by decide) u) (head?_append_close (by decide) u)
    rw [List.cons_append, memberFrom?]
    split at h
    · next hlast =>
      obtain ⟨rfl, rfl⟩ := Prod.mk.inj (Option.some.inj h)
      rw [if_pos (hlast_iff.mpr hlast), List.cons_append]
    · next hlast =>
      obtain ⟨⟨hi, v⟩, hhi, h⟩ := Option.bind_eq_some_iff.mp h
      rw [if_neg (mt hlast_iff.mp hlast), classChar?_append hhi]
      dsimp only [Option.bind_some] at h ⊢
      split at h
      · next hle =>
        obtain ⟨rfl, rfl⟩ := Prod.mk.inj (Option.some.inj h)
        rw [if_pos hle]
      · cases h
  · next hhyphen =>
    obtain ⟨rfl, rfl⟩ := Prod.mk.inj (Option.some.inj h)
    exact memberFrom?_alone lo (ne_cons_append_close (by decide) hhyphen)

theorem classMembers?_of_operation (fuel : Nat) (ranges : List (Char × Char))
    (hclose : ∀ u, t = ']' :: u → False) (hoperation : startsClassOperation t = true) :
    classMembers? (fuel + 1) t ranges = none := by
  rw [classMembers?, if_pos hoperation]
  exact hclose

theorem classMembers?_succ (fuel : Nat) (ranges : List (Char × Char))
    (hclose : ∀ u, t = ']' :: u → False) (hoperation : ¬ startsClassOperation t = true) :
    classMembers? (fuel + 1) t ranges =
      ((classChar? t).bind fun p => memberFrom? p.1 p.2).bind fun p =>
        classMembers? fuel p.2 (p.1 :: ranges) := by
  rw [classMembers?.eq_3 _ _ _ hclose, if_neg hoperation]
  cases hlo : classChar? t with
  | none => rfl
  | some p =>
    obtain ⟨lo, u⟩ := p
    dsimp only [Option.bind_some]
    split
    · cases ‹some _ = none›
    · next lo v heq =>
      obtain ⟨rfl, rfl⟩ := Prod.mk.inj (Option.some.inj heq)
      rw [memberFrom?]
      split
      · rfl
      · cases hhi : classChar? v with
        | none => rfl
        | some q =>
          dsimp only [Option.bind_some]
          split <;> rfl
    · next hu heq =>
      obtain ⟨rfl, rfl⟩ := Prod.mk.inj (Option.some.inj heq)
      rw [memberFrom?_alone _ fun v hv => hu v hv]
      rfl

/-- More fuel than needed, and a parenthesis behind the text, change nothing. -/
theorem classMembers?_append {fuel more : Nat} {ranges found : List (Char × Char)}
    (h : classMembers? fuel t ranges = some (found, rest)) (hle : fuel ≤ more) :
    classMembers? more (t ++ [')']) ranges = some (found, rest ++ [')']) := by
  induction fuel generalizing t ranges more with
  | zero => cases h
  | succ fuel ih =>
    obtain ⟨more, rfl⟩ : ∃ m, more = m + 1 := ⟨more - 1, by omega⟩
    by_cases hbracket : t.head? = some ']'
    · obtain ⟨u, rfl⟩ := List.head?_eq_some_iff.mp hbracket
      obtain ⟨rfl, rfl⟩ := Prod.mk.inj (Option.some.inj h)
      rfl
    have hclose : ∀ u, t = ']' :: u → False := by
      rintro u rfl
      exact hbracket rfl
    by_cases hoperation : startsClassOperation t = true
    · rw [classMembers?_of_operation _ _ hclose hoperation] at h
      cases h
    · rw [classMembers?_succ _ _ hclose hoperation] at h
      obtain ⟨⟨range, u⟩, hmember, h⟩ := Option.bind_eq_some_iff.mp h
      obtain ⟨⟨lo, v⟩, hlo, hmember⟩ := Option.bind_eq_some_iff.mp hmember
      have hclose' : ∀ u, t ++ [')'] = ']' :: u → False :=
        ne_cons_append_close (by decide) hclose
      rw [← startsClassOperation_append] at hoperation
      rw [classMembers?_succ _ _ hclose' hoperation, classChar?_append hlo, Option.bind_some,
        memberFrom?_append hmember]
      exact ih h (by omega)

/-- What a bracket class consists of behind its opening bracket and the mark of negation. -/
def classBody? (t : Text) : Option (List (Char × Char) × Text) :=
  let u := t.dropWhile (· = '-')
  if t.takeWhile (· = '-') = [] ∧ u.head? = some ']' then
    classMembers? u.length u.tail [(']', ']')]
  else classMembers? (u.length + 1) u ((t.takeWhile (· = '-')).map fun c => (c, c))

theorem class?_eq (t : Text) : class? t =
    (classBody? (if t.head? = some '^' then t.tail else t)).map fun p =>
      (.set (t.head? = some '^') p.1, p.2) := by
  simp only [class?, classBody?]

theorem classBody?_append {found : List (Char × Char)} (h : classBody? t = some (found, rest)) :
    classBody? (t ++ [')']) = some (found, rest ++ [')']) := by
  rw [classBody?] at h ⊢
  rw [takeWhile_append_close (by decide), dropWhile_append_close (by decide)]
  generalize t.dropWhile (· = '-') = u at h ⊢
  have hfirst := head?_append_close (c := ']') (by decide) u
  split at h
  · next hbracket =>
    obtain ⟨v, rfl⟩ := List.head?_eq_some_iff.mp hbracket.2
    rw [if_pos ⟨hbracket.1, rfl⟩]
    exact classMembers?_append h (by simp)
  · next hbracket =>
    rw [if_neg (fun hand => hbracket ⟨hand.1, hfirst.mp hand.2⟩)]
    exact classMembers?_append h (by simp)

theorem class?_append (h : class? t = some (token, rest)) :
    class? (t ++ [')']) = some (token, rest ++ [')']) := by
  have hmark := head?_append_close (c := '^') (by decide) t
  rw [class?_eq] at h ⊢
  obtain ⟨⟨found, u⟩, hbody, heq⟩ := Option.map_eq_some_iff.mp h
  obtain ⟨rfl, rfl⟩ := Prod.mk.inj heq
  simp only [hmark]
  by_cases hnegated : t.head? = some '^'
  · obtain ⟨v, rfl⟩ := List.head?_eq_some_iff.mp hnegated
    rw [if_pos hnegated] at hbody ⊢
    have hmore := classBody?_append hbody
    rw [List.tail_cons] at hmore
    rw [List.cons_append, List.tail_cons, hmore]
    rfl
  · rw [if_neg hnegated] at hbody ⊢
    rw [classBody?_append hbody]
    rfl

/-! ## Repetitions and escapes -/

theorem repetition_append (least : Nat) (most : Option Nat) (t : Text) :
    repetition least most (t ++ [')']) =
      ((repetition least most t).1, (repetition least most t).2 ++ [')']) := by
  cases t with
  | nil => rfl
  | cons c t =>
    by_cases hc : c = '?'
    · subst hc
      rfl
    · simp [repetition, hc]

theorem count?_append (t : Text) :
    count? (t ++ [')']) = (count? t).map fun p => (p.1, p.2 ++ [')']) := by
  have hblank : CharClass.isWhiteSpace ')' = false := by decide
  have hdigit : Char.isDigit ')' = false := by decide
  rw [count?, count?, dropWhile_append_close hblank, takeWhile_append_close hdigit,
    dropWhile_append_close hdigit, dropWhile_append_close hblank]
  split <;> rfl

/-- What follows the least number of a counted repetition. -/
def upper? (least : Nat) : Text → Option (Token × Text)
  | '}' :: u => some (repetition least (some least) u)
  | ',' :: '}' :: u => some (repetition least none u)
  | ',' :: u =>
      match count? u with
      | some (most, '}' :: v) =>
          if least ≤ most then some (repetition least (some most) v) else none
      | _ => none
  | _ => none

theorem counted?_eq (t : Text) : counted? t = (count? t).bind fun p => upper? p.1 p.2 := by
  rw [counted?]
  cases count? t with
  | none => rfl
  | some p =>
    obtain ⟨least, u⟩ := p
    dsimp only [Option.bind_some]
    split
    · simp_all
    · simp_all [upper?]
    · simp_all [upper?]
    · next w hw heq =>
      obtain ⟨rfl, rfl⟩ := Prod.mk.inj (Option.some.inj heq)
      exact (upper?.eq_3 least w hw).symm
    · next v hnot₁ hnot₂ hnot₃ heq =>
      obtain rfl := Option.some.inj heq
      rw [upper?]
      all_goals
        intros
        simp_all

theorem upper?_append {least : Nat} (h : upper? least t = some (token, rest)) :
    upper? least (t ++ [')']) = some (token, rest ++ [')']) := by
  unfold upper? at h
  split at h
  · next u =>
    rw [List.cons_append, upper?, repetition_append, Option.some.inj h]
  · next u =>
    rw [List.cons_append, List.cons_append, upper?, repetition_append, Option.some.inj h]
  · next u hu =>
    rw [List.cons_append, upper?]
    · split at h
      · next most v hmost =>
        rw [count?_append, hmost]
        simp only [Option.map_some, List.cons_append]
        split at h
        · next hle => rw [if_pos hle, repetition_append, Option.some.inj h]
        · cases h
      · cases h
    · exact ne_cons_append_close (by decide) hu
  · cases h

theorem counted?_append (h : counted? t = some (token, rest)) :
    counted? (t ++ [')']) = some (token, rest ++ [')']) := by
  rw [counted?_eq] at h ⊢
  obtain ⟨⟨least, u⟩, hcount, h⟩ := Option.bind_eq_some_iff.mp h
  rw [count?_append, hcount]
  exact upper?_append h

theorem escape?_append (h : escape? t = some (token, rest)) :
    escape? (t ++ [')']) = some (token, rest ++ [')']) := by
  unfold escape? at h
  split at h
  · obtain ⟨rfl, rfl⟩ := Prod.mk.inj (Option.some.inj h)
    rfl
  · obtain ⟨rfl, rfl⟩ := Prod.mk.inj (Option.some.inj h)
    rfl
  · next c t hstart hend =>
    obtain ⟨found, hfound, heq⟩ := Option.map_eq_some_iff.mp h
    obtain ⟨rfl, rfl⟩ := Prod.mk.inj heq
    rw [List.cons_append, escape?, hfound]
    · rfl
    · exact hstart
    · exact hend
  · cases h

theorem flags?_append (h : flags? t = some (token, rest)) :
    flags? (t ++ [')']) = some (token, rest ++ [')']) := by
  unfold flags? at h
  split at h
  case h_6 => cases h
  all_goals
    obtain ⟨rfl, rfl⟩ := Prod.mk.inj (Option.some.inj h)
    rfl

theorem token?_open (h : ∀ u, t = '?' :: u → False) :
    token? '(' t = some (.groupOpen true none, t) := by
  rw [token?]
  exact h

theorem token?_append {c : Char} (h : token? c t = some (token, rest)) :
    token? c (t ++ [')']) = some (token, rest ++ [')']) := by
  have hsimple : ∀ token', some (token', t) = some (token, rest) →
      some (token', t ++ [')']) = some (token, rest ++ [')']) := by
    intro token' heq
    obtain ⟨rfl, rfl⟩ := Prod.mk.inj (Option.some.inj heq)
    rfl
  have hrepetition : ∀ least most, some (repetition least most t) = some (token, rest) →
      some (repetition least most (t ++ [')'])) = some (token, rest ++ [')']) := by
    intro least most heq
    rw [repetition_append, Option.some.inj heq]
  unfold token? at h
  split at h
  -- Escapes, bracket classes, groups, repetitions and counts are read on from their first
  -- character; every other token is that character.
  case h_1 => exact escape?_append h
  case h_7 => exact class?_append h
  case h_8 =>
    split at h
    · exact flags?_append h
    · next hmark =>
      rw [token?_open (ne_cons_append_close (by decide) hmark)]
      exact hsimple _ h
  case h_9 => exact hrepetition _ _ h
  case h_10 => exact hrepetition _ _ h
  case h_11 => exact hrepetition _ _ h
  case h_12 => exact counted?_append h
  case h_13 =>
    rw [token?]
    · exact hsimple _ h
    all_goals assumption
  all_goals exact hsimple _ h

/-! ## All tokens -/

theorem tokensWithin?_nil (fuel : Nat) : tokensWithin? fuel [] = some [] := by
  cases fuel <;> rfl

theorem tokensWithin?_cons (fuel : Nat) {c : Char} (h : token? c t = some (token, rest)) :
    tokensWithin? (fuel + 1) (c :: t) = (tokensWithin? fuel rest).map (token :: ·) := by
  rw [tokensWithin?, h]

theorem tokensWithin?_close (fuel : Nat) :
    tokensWithin? (fuel + 1) [')'] = some [.groupClose] := by
  have hclose : token? ')' [] = some (.groupClose, []) := rfl
  rw [tokensWithin?_cons fuel hclose, tokensWithin?_nil]
  rfl

theorem tokensWithin?_append {fuel more : Nat} {tokens : List Token}
    (h : tokensWithin? fuel t = some tokens) (hlt : fuel < more) :
    tokensWithin? more (t ++ [')']) = some (tokens ++ [.groupClose]) := by
  induction fuel generalizing t tokens more with
  | zero =>
    obtain ⟨more, rfl⟩ := Nat.exists_eq_add_of_lt hlt
    cases t with
    | nil =>
      obtain rfl := Option.some.inj h
      exact tokensWithin?_close _
    | cons c t => cases h
  | succ fuel ih =>
    obtain ⟨more, rfl⟩ : ∃ m, more = m + 1 := ⟨more - 1, by omega⟩
    cases t with
    | nil =>
      obtain rfl := Option.some.inj h
      exact tokensWithin?_close more
    | cons c t =>
      cases htoken : token? c t with
      | none =>
        rw [tokensWithin?, htoken] at h
        cases h
      | some p =>
        obtain ⟨token, rest⟩ := p
        rw [tokensWithin?_cons fuel htoken] at h
        obtain ⟨behind, hbehind, rfl⟩ := Option.map_eq_some_iff.mp h
        rw [List.cons_append, tokensWithin?_cons more (token?_append htoken),
          ih hbehind (by omega)]
        rfl

/-- The tokens of a text in a group at the start of a text. -/
theorem tokens?_anchor {tokens : List Token} (h : tokens? t = some tokens) :
    tokens? (anchor t) =
      some (.textStart :: .groupOpen false none :: (tokens ++ [.groupClose])) := by
  have hanchor : anchor t = '\\' :: 'A' :: '(' :: '?' :: ':' :: (t ++ [')']) := rfl
  have hlength : (anchor t).length = t.length + 4 + 1 + 1 := by
    rw [hanchor]
    simp only [List.length_cons, List.length_append, List.length_nil]
  have hstart : token? '\\' ('A' :: '(' :: '?' :: ':' :: (t ++ [')'])) =
      some (.textStart, '(' :: '?' :: ':' :: (t ++ [')'])) := rfl
  have hopen : token? '(' ('?' :: ':' :: (t ++ [')'])) =
      some (.groupOpen false none, t ++ [')']) := rfl
  have htokens : tokensWithin? (t.length + 4) (t ++ [')']) = some (tokens ++ [.groupClose]) :=
    tokensWithin?_append h (by omega)
  rw [tokens?, hlength, hanchor, tokensWithin?_cons _ hstart, tokensWithin?_cons _ hopen, htokens]
  rfl

end LexScan.Pattern
