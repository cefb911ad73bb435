import LexScan.Pattern.Search
import Std.Data.TreeSet.Lemmas

/-!
# Where searches lead

A search with a fixed end, whatever was tried before it: `Reaches s n number q` says
that `s` ends at `q` unless a choice was tried that comes after choice `number` at
place `n`. Choices come after one another by their numbers, and with the same number
by their places, which is the order in which a match that never turns back meets them.
-/

namespace LexScan.Pattern

/-- The place `k` characters further on. -/
def Place.advance (p : Place) (k : Nat) : Place := ⟨p.before + k, p.rest.drop k⟩

@[simp] theorem Place.advance_zero (p : Place) : p.advance 0 = p := rfl

theorem Place.advance_cons (n : Nat) (c : Char) (t : Text) (k : Nat) :
    (⟨n, c :: t⟩ : Place).advance (k + 1) = (⟨n + 1, t⟩ : Place).advance k := by
  rw [advance, advance, List.drop_succ_cons, Nat.add_assoc, Nat.add_comm 1 k]

theorem Place.advance_advance (p : Place) (j k : Nat) :
    (p.advance j).advance k = p.advance (j + k) := by
  simp only [advance, List.drop_drop, Nat.add_assoc]

/-- No choice has been tried that comes after choice `number` at place `n`, nor that
choice itself. -/
def Unseen (tried : Tried) (n number : Nat) : Prop :=
  ∀ m k, number < k ∨ number = k ∧ n ≤ m → tried.contains (m, k) = false

/-- The search ends at `q`, whatever was tried before choice `number` at place `n`. -/
def Search.Reaches (s : Search) (n number : Nat) (q : Place) : Prop :=
  ∀ tried, Unseen tried n number → (s tried).1 = some q

variable {first second : Search} {p q : Place} {n number : Nat}

theorem unseen_empty (n number : Nat) : Unseen {} n number := by
  intro m k _
  exact Std.TreeSet.contains_emptyc

theorem Unseen.insert {tried : Tried} (h : Unseen tried n number) :
    Unseen (tried.insert (n, number)) (n + 1) number := by
  intro m k hafter
  have hold : tried.contains (m, k) = false := h m k (by omega)
  have hnew : (n, number) ≠ (m, k) := by
    intro heq
    obtain ⟨rfl, rfl⟩ := Prod.mk.inj heq
    omega
  rw [Std.TreeSet.contains_insert, hold, Bool.or_false, beq_eq_false_iff_ne]
  intro hcompare
  have hboth := Ordering.then_eq_eq.mp hcompare
  exact hnew (Prod.ext (Nat.compare_eq_eq.mp hboth.1) (Nat.compare_eq_eq.mp hboth.2))

theorem Unseen.not_contains {tried : Tried} (h : Unseen tried n number) :
    ¬ tried.contains (n, number) = true := by
  simp [h n number (.inr ⟨rfl, Nat.le_refl n⟩)]

theorem Search.Reaches.earlier {s : Search} {m k : Nat} (h : s.Reaches m k q)
    (hk : number < k ∨ number = k ∧ n ≤ m) : s.Reaches n number q := by
  intro tried hunseen
  exact h tried fun i j hafter => hunseen i j (by omega)

/-- The first way is taken if it leads to success. -/
theorem choose_of_first (h : first.Reaches (p.before + 1) number q) :
    (choose number p first second).Reaches p.before number q := by
  intro tried hunseen
  have hfirst := h _ hunseen.insert
  rw [choose, if_neg hunseen.not_contains]
  split
  · next r more hr =>
    rw [hr] at hfirst
    exact hfirst
  · next more hr =>
    rw [hr] at hfirst
    cases hfirst

/-- The second way is taken if the first one fails without another choice. -/
theorem choose_of_fail (h : second.Reaches (p.before + 1) number q) :
    (choose number p fail second).Reaches p.before number q := by
  intro tried hunseen
  rw [choose, if_neg hunseen.not_contains]
  exact h _ hunseen.insert

/-- If the second way is the end of the pattern, what the first one tried makes no
difference. -/
theorem choose_of_none (h : ∀ tried, (first tried).1 = none) :
    (choose number p first (found q)).Reaches p.before number q := by
  intro tried hunseen
  have hfirst := h (tried.insert (p.before, number))
  rw [choose, if_neg hunseen.not_contains]
  split
  · next r more hr =>
    rw [hr] at hfirst
    cases hfirst
  · rfl

/-- A choice between two ways that fail fails. -/
theorem choose_eq_none (hfirst : ∀ tried, (first tried).1 = none)
    (hsecond : ∀ tried, (second tried).1 = none) (tried : Tried) :
    (choose number p first second tried).1 = none := by
  have h := hfirst (tried.insert (p.before, number))
  rw [choose]
  split
  · rfl
  · split
    · next r more hr =>
      rw [hr] at h
      cases h
    · exact hsecond _

end LexScan.Pattern
