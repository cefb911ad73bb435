import LexScan.Pattern.Search
import LexScan.Proofs.Anchoring.Nesting

/-!
# A pattern behind a test for the start

A row is put together from the parts of what stands in it, and neighbouring literals in it
become one. None of this shows in what it matches: the parts match one behind the other, with
the choices that they had. So a pattern behind a test for the start of the text has the
matches that it has there alone, the same one preferred, and none elsewhere.

Nor does it make the automata larger than they are, but for the state of the test.
-/

namespace LexScan.Pattern

variable {direction : Direction}

/-- What is the same before and after two literals at the front are joined, and is told by
the first part and by what is told of the others, is not changed by joining all the literals
of a row. -/
theorem foldr_consPart_eq {α : Type} (f : List Pattern → α)
    (hjoin : ∀ s t ps, f (literal (s ++ t) :: ps) = f (literal s :: literal t :: ps))
    (hcons : ∀ p ps qs, f ps = f qs → f (p :: ps) = f (p :: qs)) (ps : List Pattern) :
    f (ps.foldr consPart []) = f ps := by
  induction ps with
  | nil => rfl
  | cons p ps ih =>
    have hfront : ∀ qs, f (consPart p qs) = f (p :: qs) := by
      intro qs
      fun_cases consPart p qs with
      | case1 s t rest => exact hjoin s t rest
      | case2 => rfl
    rw [List.foldr_cons, hfront]
    exact hcons p _ _ ih

/-! ## Matches -/

theorem Place.skip?_append (p : Place) (s t : Text) :
    p.skip? (s ++ t) = (p.skip? s).bind (·.skip? t) := by
  induction s generalizing p with
  | nil => rfl
  | cons x s ih =>
    obtain ⟨n, rest⟩ := p
    cases rest with
    | nil => rfl
    | cons c rest =>
      rw [List.cons_append, skip?, skip?]
      split
      · exact ih _
      · rfl

theorem run_literal (s : Text) (number : Nat) (p : Place) (next : Place → Search) :
    run (literal s) number p next = (p.skip? s).elim fail next := by
  rw [run]
  cases p.skip? s <;> rfl

theorem run_ofParts_cons (p : Pattern) (ps : List Pattern) (number : Nat) (place : Place)
    (next : Place → Search) : run (ofParts (p :: ps)) number place next =
      run p number place fun q => run (ofParts ps) (number + p.choices) q next := by
  cases ps with
  | nil => rfl
  | cons => rfl

/-- Literals that become one match as they did one behind the other. -/
theorem run_ofParts_foldr (ps : List Pattern) :
    run (ofParts (ps.foldr consPart [])) = run (ofParts ps) := by
  refine foldr_consPart_eq (fun ps => run (ofParts ps)) ?_ ?_ ps
  · intro s t ps
    funext number place next
    -- A literal has no choices, so those behind it keep their numbers.
    simp only [run_ofParts_cons, run_literal, Place.skip?_append, choices, Nat.add_zero]
    cases place.skip? s <;> rfl
  · intro p ps qs h
    funext number place next
    simp only [run_ofParts_cons, h]

/-- A pattern matches what its parts match in a row. -/
theorem run_ofParts_parts (p : Pattern) : run (ofParts p.parts) = run p := by
  induction p with
  | cat first second _ ih =>
    funext number place next
    rw [parts, run_ofParts_cons, run_cat, ih]
  | _ => rfl

theorem run_tied (p : Pattern) (number : Nat) (place : Place) (next : Place → Search) :
    run (tied p) number place next =
      if place.before = 0 then run p number place next else fail := by
  rw [tied_eq, run_ofParts_cons, run_ofParts_foldr, run_ofParts_parts]
  rfl

/-! ## Searches -/

theorem endFrom?_tied (p : Pattern) (place : Place) :
    (tied p).endFrom? place = if place.before = 0 then p.endFrom? place else none := by
  rw [endFrom?, run_tied]
  split <;> rfl

theorem atStart?_tied (p : Pattern) (t : Text) : (tied p).atStart? t = p.atStart? t := by
  rw [atStart?, endFrom?_tied]
  rfl

theorem search_tied_succ (p : Pattern) (n : Nat) (t : Text) :
    (tied p).search (n + 1) t = none := by
  induction t generalizing n with
  | nil =>
    rw [search, endFrom?_tied]
    rfl
  | cons c t ih =>
    rw [search, endFrom?_tied, if_neg (Nat.succ_ne_zero n)]
    exact ih (n + 1)

/-- What is found of a tied pattern is the match at the start. -/
theorem find?_tied (p : Pattern) (t : Text) :
    (tied p).find? t = (p.atStart? t).map fun piece => ([], piece) := by
  cases h : p.atStart? t with
  | some piece =>
    rw [← atStart?_tied] at h
    exact atStart?_eq_some_iff.mp h
  | none =>
    have hend : (tied p).endFrom? ⟨0, t⟩ = none :=
      Option.map_eq_none_iff.mp ((atStart?_tied p t).trans h)
    have hsearch : (tied p).search 0 t = none := by
      cases t with
      | nil =>
        rw [search, hend]
        rfl
      | cons c t =>
        rw [search, hend]
        exact search_tied_succ p 0 t
    rw [find?, hsearch]
    rfl

/-! ## Costs -/

/-- The costs of the parts of a row. -/
def partsCost (direction : Direction) : List Pattern → Nat
  | [] => 0
  | p :: ps => cost direction false p + partsCost direction ps

theorem cost_ofParts_cons (p : Pattern) (ps : List Pattern) :
    cost direction false (ofParts (p :: ps)) = partsCost direction (p :: ps) := by
  induction ps generalizing p with
  | nil => rfl
  | cons q ps ih =>
    rw [partsCost, ← ih]
    rfl

theorem partsCost_foldr (ps : List Pattern) :
    partsCost direction (ps.foldr consPart []) = partsCost direction ps := by
  refine foldr_consPart_eq (partsCost direction) ?_ ?_ ps
  · intro s t ps
    simp [partsCost, cost, withBranch, Text.size_append, Nat.mul_add, Nat.add_assoc]
  · intro p ps qs h
    rw [partsCost, partsCost, h]

theorem partsCost_parts_le (p : Pattern) :
    partsCost direction p.parts ≤ cost direction false p := by
  induction p with
  | empty => exact Nat.zero_le _
  | cat first second _ ih =>
    rw [parts, partsCost]
    exact Nat.add_le_add_left ih _
  | _ => exact Nat.le_refl _

/-- A tied pattern has one state more at most. -/
theorem cost_tied_le (direction : Direction) (p : Pattern) :
    cost direction false (tied p) ≤ cost direction false p + stateCost := by
  have hparts : partsCost direction p.parts ≤ cost direction false p := partsCost_parts_le p
  have hstate : cost direction false textStart = stateCost := rfl
  rw [tied_eq, cost_ofParts_cons, partsCost, partsCost_foldr, hstate]
  omega

theorem testsStart_tied (p : Pattern) : (tied p).testsStart = true := by
  rw [tied_eq]
  cases p.parts.foldr consPart [] <;> rfl

theorem onlyEmpty_ofParts_cons (p : Pattern) (ps : List Pattern) :
    (ofParts (p :: ps)).onlyEmpty = (p.onlyEmpty && (ofParts ps).onlyEmpty) := by
  cases ps with
  | nil => exact (Bool.and_true _).symm
  | cons => rfl

theorem testsEnd_ofParts_cons (p : Pattern) (ps : List Pattern) :
    (ofParts (p :: ps)).testsEnd =
      ((ofParts ps).testsEnd || (ofParts ps).onlyEmpty && p.testsEnd) := by
  cases ps with
  | nil => simp [ofParts, testsEnd, onlyEmpty]
  | cons => rfl

/-- What tells whether a row tests for the end of the text. -/
def endTests (p : Pattern) : Bool × Bool := (p.testsEnd, p.onlyEmpty)

theorem endTests_ofParts_foldr (ps : List Pattern) :
    endTests (ofParts (ps.foldr consPart [])) = endTests (ofParts ps) := by
  refine foldr_consPart_eq (fun ps => endTests (ofParts ps)) ?_ ?_ ps
  · intro s t ps
    simp [endTests, testsEnd_ofParts_cons, onlyEmpty_ofParts_cons, testsEnd, onlyEmpty]
  · intro p ps qs h
    obtain ⟨htests, honly⟩ := Prod.mk.inj h
    simp only [endTests, testsEnd_ofParts_cons, onlyEmpty_ofParts_cons, htests, honly]

theorem endTests_ofParts_parts (p : Pattern) : endTests (ofParts p.parts) = endTests p := by
  induction p with
  | cat first second _ ih =>
    obtain ⟨htests, honly⟩ := Prod.mk.inj ih
    simp only [endTests, parts, testsEnd_ofParts_cons, onlyEmpty_ofParts_cons, htests, honly]
    rfl
  | _ => rfl

theorem testsEnd_tied (p : Pattern) : (tied p).testsEnd = p.testsEnd := by
  have hparts := (endTests_ofParts_foldr p.parts).trans (endTests_ofParts_parts p)
  rw [tied_eq, testsEnd_ofParts_cons, (Prod.mk.inj hparts).1]
  simp [testsEnd]

theorem forwardsCost_tied_le (p : Pattern) :
    (tied p).forwardsCost ≤ p.forwardsCost + stateCost := by
  have hcost := cost_tied_le .forwards p
  have hskip : stateCost ≤ if p.testsStart then stateCost else skippingCost := by
    split <;> decide
  rw [forwardsCost, forwardsCost, testsStart_tied, if_pos rfl]
  omega

theorem backwardsCost_tied_le (p : Pattern) :
    (tied p).backwardsCost ≤ p.backwardsCost + stateCost := by
  have hcost := cost_tied_le .backwards p
  rw [backwardsCost, backwardsCost, testsEnd_tied]
  omega

/-- Where both automata leave room for one state more, the pattern can be tied. -/
theorem fits_tied {p : Pattern} (hforwards : p.forwardsCost + stateCost ≤ costLimit)
    (hbackwards : p.backwardsCost + stateCost ≤ costLimit) : (tied p).fits = true := by
  have hforwards' := Nat.le_trans (forwardsCost_tied_le p) hforwards
  have hbackwards' := Nat.le_trans (backwardsCost_tied_le p) hbackwards
  simp [fits, hforwards', hbackwards']

end LexScan.Pattern
