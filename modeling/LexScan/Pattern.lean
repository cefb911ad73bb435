import LexScan.CodeRanges
import LexScan.Text

/-!
# Patterns

A pattern is a regular expression as a tree. Patterns are built by functions that
keep them in a normal form: rows and alternatives nest to the right and hold no
row or alternative of their own, characters in a row make one literal,
alternatives between single characters make a set, and turns of a part that is
always empty are not counted beyond the first.

One rule of the normal form shows in what a pattern matches: branches that all begin
with the same parts have these parts in common. So `.*b|.*c` takes what `.*(?:b|c)`
takes: everything up to the last `b` or `c`, whichever comes later.
-/

namespace LexScan

inductive Pattern where
  | empty
  /-- These characters in a row, of which there is one at least. -/
  | literal (s : Text)
  /-- A character with its code point in one of the ranges. -/
  | set (ranges : CodeRanges)
  | textStart
  | textEnd
  /-- A group that counts, with its number. It matches what its body matches. -/
  | group (number : Nat) (body : Pattern)
  | cat (first second : Pattern)
  | alt (left right : Pattern)
  /-- At least `least` and at most `most` times, or with no upper bound. -/
  | times (body : Pattern) (least : Nat) (most : Option Nat) (greedy : Bool)
deriving DecidableEq, Repr

namespace Pattern

/-- Whether the text that the pattern matches is always empty. -/
def onlyEmpty : Pattern → Bool
  | empty => true
  | literal _ => false
  | set _ => false
  | textStart => true
  | textEnd => true
  | group _ body => onlyEmpty body
  | cat first second => onlyEmpty first && onlyEmpty second
  | alt left right => onlyEmpty left && onlyEmpty right
  | times body _ _ _ => onlyEmpty body

/-- The least number of characters that a match has; `none` if some part of the
pattern has no match at all. -/
def minLength? : Pattern → Option Nat
  | empty => some 0
  | literal s => some s.length
  | set ranges => if ranges.isEmpty then none else some 1
  | textStart => some 0
  | textEnd => some 0
  | group _ body => minLength? body
  | cat first second =>
      match minLength? first, minLength? second with
      | some m, some n => some (m + n)
      | _, _ => none
  | alt left right =>
      match minLength? left, minLength? right with
      | some m, some n => some (Nat.min m n)
      | _, _ => none
  | times body least _ _ => (minLength? body).map (least * ·)

/-- Whether every match takes a character at least. -/
def neverEmpty (p : Pattern) : Bool := p.minLength?.any (0 < ·)

/-- The parts of a row. -/
def parts : Pattern → List Pattern
  | empty => []
  | cat first second => first :: parts second
  | p => [p]

def ofParts : List Pattern → Pattern
  | [] => empty
  | [p] => p
  | p :: rest => cat p (ofParts rest)

/-- The branches of an alternative. -/
def branches : Pattern → List Pattern
  | alt left right => left :: branches right
  | p => [p]

/-- A part before parts in a row, joined with the first of them if both are literals. -/
def consPart : Pattern → List Pattern → List Pattern
  | literal s, literal t :: rest => literal (s ++ t) :: rest
  | p, rest => p :: rest

/-- Some patterns in a row. -/
def row (ps : List Pattern) : Pattern :=
  ofParts ((ps.flatMap parts).foldr consPart [])

/-- A character of a set. -/
def ofRanges : CodeRanges → Pattern
  | [(lo, hi)] => if lo = hi then literal [Char.ofNat lo] else set [(lo, hi)]
  | ranges => set ranges

/-- The characters of some branches, if each of them is one character. -/
def singleChars? : List Pattern → Option (List (Nat × Nat))
  | [] => some []
  | literal [c] :: rest => (singleChars? rest).map ((c.toNat, c.toNat) :: ·)
  | _ :: _ => none

/-- The ranges of some branches, if each of them is a set. -/
def setRanges? : List Pattern → Option (List (Nat × Nat))
  | [] => some []
  | set ranges :: rest => (setRanges? rest).map (ranges ++ ·)
  | _ :: _ => none

def ofBranches : List Pattern → Pattern
  | [] => set []
  | [p] => p
  | p :: rest => alt p (ofBranches rest)

/-- An alternative between branches that are no alternatives themselves. -/
def anyOf (ps : List Pattern) : Pattern :=
  match singleChars? ps with
  | some ranges => ofRanges (.ofRanges ranges)
  | none =>
      match setRanges? ps with
      | some ranges => ofRanges (.ofRanges ranges)
      | none => ofBranches ps

/-- The longest list that two lists begin with. -/
def commonParts : List Pattern → List Pattern → List Pattern
  | p :: ps, q :: qs => if p = q then p :: commonParts ps qs else []
  | _, _ => []

/-- The parts that all branches begin with. A branch that is no row of several
parts shares none. -/
def sharedParts : List Pattern → List Pattern
  | [] => []
  | p :: ps =>
      if (p :: ps).all fun q => 2 ≤ q.parts.length then
        ps.foldl (fun shared q => commonParts shared q.parts) p.parts
      else []

/-- An alternative between some patterns, the first of them preferred. -/
def choice (ps : List Pattern) : Pattern :=
  match ps.flatMap branches with
  | [p] => p
  | ps =>
      match sharedParts ps with
      | [] => anyOf ps
      | shared =>
          row (shared ++
            [anyOf ((ps.map fun p => ofParts (p.parts.drop shared.length)).flatMap branches)])

/-- A pattern several times in a row. -/
def repeated (body : Pattern) (least : Nat) (most : Option Nat) (greedy : Bool) : Pattern :=
  let (least, most) :=
    if body.onlyEmpty then (Nat.min least 1, some (Nat.min (most.getD 1) 1)) else (least, most)
  if most = some 0 then empty
  else if least = 1 ∧ most = some 1 then body
  else times body least most greedy

end Pattern

end LexScan
