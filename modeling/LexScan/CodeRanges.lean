/-!
# Ranges of code points

A set of characters as the ranges of their code points. The ranges ascend and no
two of them touch, so a set has one form only: `insert` joins a new range with
those that it meets.
-/

namespace LexScan

/-- Ranges of code points, with both their ends. -/
abbrev CodeRanges := List (Nat × Nat)

namespace CodeRanges

def largest : Nat := 0x10FFFF

/-- The set together with the code points from `first` to `last`. -/
def insert (first last : Nat) : CodeRanges → CodeRanges
  | [] => [(first, last)]
  | (lo, hi) :: rest =>
      if last + 1 < lo then (first, last) :: (lo, hi) :: rest
      else if hi + 1 < first then (lo, hi) :: insert first last rest
      else insert (Nat.min first lo) (Nat.max last hi) rest

/-- The set of the code points in any of some ranges. -/
def ofRanges (ranges : List (Nat × Nat)) : CodeRanges :=
  ranges.foldr (fun (first, last) set => insert first last set) []

/-- The code points from `n` on that lie before or between or after the ranges. -/
def gaps (n : Nat) : CodeRanges → CodeRanges
  | [] => if n ≤ largest then [(n, largest)] else []
  | (lo, hi) :: rest =>
      if n < lo then (n, lo - 1) :: gaps (hi + 1) rest else gaps (hi + 1) rest

def complement (set : CodeRanges) : CodeRanges := gaps 0 set

def contains (set : CodeRanges) (c : Char) : Bool :=
  set.any fun (lo, hi) => lo ≤ c.toNat && c.toNat ≤ hi

end CodeRanges

end LexScan
