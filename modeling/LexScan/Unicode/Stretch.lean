/-!
# Sets of code points

A set of code points as a list of stretches in ascending order. A stretch has a
first and a last code point and a step: with step 2 it holds every other code
point, as the capital letters of alphabets that pair their letters do.
-/

namespace LexScan.Unicode

/-- The code points `first`, `first + step`, ... up to `last`. -/
structure Stretch where
  first : Nat
  last : Nat
  step : Nat
deriving DecidableEq, Repr

/-- Whether a stretch that starts no later than `n` holds `n`. -/
def Stretch.reaches (s : Stretch) (n : Nat) : Bool :=
  n ≤ s.last && (n - s.first) % s.step == 0

/-- Membership in a list of ascending stretches. -/
def holds : List Stretch → Nat → Bool
  | [], _ => false
  | s :: rest, n => if n < s.first then false else s.reaches n || holds rest n

end LexScan.Unicode
