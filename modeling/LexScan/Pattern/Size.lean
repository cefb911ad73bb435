import LexScan.Pattern
import LexScan.Pattern.ByteForm

/-!
# Sizes of patterns

A pattern stands for two automata over the bytes of a text, one that reads a match
forwards and one that reads it backwards, from its end to its start. Counted turns
are laid out one after the other in them, so a short pattern can have a very large
automaton. This module tells how much memory an automaton takes, without building
it, and `fits` is the limit on it.

Every state has a cost, and so has every branch of a state that branches and every
range of bytes of a state that looks a byte up in a table.
-/

namespace LexScan.Pattern

/-- The way in which an automaton reads. -/
inductive Direction where
  | forwards | backwards
deriving DecidableEq, Repr

/-- Bytes of memory for a state. -/
def stateCost : Nat := 32

/-- Bytes of memory for a branch of a state. -/
def branchCost : Nat := 4

/-- Bytes of memory for a range that a state looks up. -/
def rangeCost : Nat := 8

/-- A state that looks a byte up in so many ranges. -/
def tableCost (ranges : Nat) : Nat := stateCost + rangeCost * ranges

/-- A state with so many branches. -/
def forkCost (branches : Nat) : Nat := stateCost + branchCost * branches

/-- The cost of a set of characters. Sets of ASCII characters need one table and
the state behind it. Other sets share, forwards, the states before equal remainders
of their byte forms, and backwards the states behind equal beginnings. -/
def setCost (direction : Direction) (set : CodeRanges) : Nat :=
  if set.all fun (_, last) => last < 0x80 then tableCost set.length + stateCost
  else
    let forms := ByteForm.ofSet set
    match direction with
    | .forwards =>
        ((ByteForm.remainders 4 forms).eraseDups.map fun rest =>
          tableCost (ByteForm.byFirst rest).length).foldl Nat.add stateCost
    | .backwards =>
        let beginnings := forms.flatMap fun form => (List.range form.length).map fun n =>
          form.take (n + 1)
        forkCost forms.length + stateCost + stateCost * beginnings.eraseDups.length

/-! ## Alternatives between literals

Literals that stand side by side as branches make a tree of words: words that begin
with the same bytes share the states for these. A word that ends where others go on
is preferred to those after it, so it cuts the words at its end into a chunk before
it and a chunk behind it, and words share states within a chunk only.
-/

/-- What remains of some words, cut where a word ends. -/
def betweenEnds : List (List UInt8) → List (List (List UInt8))
  | [] => [[]]
  | word :: words =>
      if word.isEmpty then [] :: betweenEnds words
      else match betweenEnds words with
        | [] => [[word]]
        | chunk :: chunks => (word :: chunk) :: chunks

/-- The chunks of what remains of some words. Several words that end before any
other goes on cut once. -/
def chunks (words : List (List UInt8)) : List (List (List UInt8)) :=
  match words with
  | [] :: _ => [] :: betweenEnds (words.dropWhile (·.isEmpty))
  | _ => betweenEnds words

/-- The state that tells the first bytes of words apart. -/
def firstByteCost (bytes : List UInt8) : Nat :=
  match bytes with
  | [_] => stateCost
  | _ => tableCost bytes.length

/-- The cost of the tree for what remains of some words, less than `length` bytes of
each, without the state where all words end. -/
def treeCost : (length : Nat) → List (List UInt8) → Nat
  | 0, _ => 0
  | length + 1, words =>
      let cut := chunks words
      let filled := cut.filter fun chunk => !chunk.isEmpty
      let below := filled.map fun chunk =>
        let bytes := (chunk.filterMap (·.head?)).eraseDups
        let subtrees := bytes.map fun b =>
          let rest := (chunk.filter fun word => word.head? = some b).map (·.tail)
          if rest.all (·.isEmpty) then 0 else treeCost length rest
        subtrees.foldl Nat.add (firstByteCost bytes)
      below.foldl Nat.add (forkCost (filled.length + (cut.length - 1)))

/-- The branches of an alternative, if each of them is a literal. -/
def words? : Pattern → Option (List Text)
  | literal s => some [s]
  | alt (literal s) right => (words? right).map (s :: ·)
  | _ => none

def literalBytes (direction : Direction) (s : Text) : List UInt8 :=
  let bytes := s.flatMap String.utf8EncodeChar
  match direction with
  | .forwards => bytes
  | .backwards => bytes.reverse

def wordsCost (direction : Direction) (words : List Text) : Nat :=
  let words := words.map (literalBytes direction)
  stateCost + treeCost ((words.map List.length).foldl Nat.max 0 + 1) words

/-! ## The whole pattern -/

/-- The cost of a repetition whose body costs `body`. -/
def turnsCost (body : Nat) (neverEmpty : Bool) (least : Nat) (most : Option Nat) : Nat :=
  match most, least with
  | none, 0 =>
      if neverEmpty then body + forkCost 2 else body + 2 * forkCost 2 + stateCost
  | none, least => least * body + forkCost 2
  | some 1, 0 => body + forkCost 2 + stateCost
  | some most, least =>
      if least = most then least * body
      else
        (if least = 0 then stateCost else least * body) + stateCost +
          (most - least) * (body + forkCost 2)

/-- The cost of a part, and of the branch to it if it is one of several branches. -/
def withBranch (branching : Bool) (cost : Nat) : Nat :=
  if branching then branchCost + cost else cost

/-- The states in which a numbered group starts and ends, where these are kept. -/
def Direction.groupCost : Direction → Nat
  | forwards => 2 * stateCost
  | backwards => 0

/-- The cost of the states for a pattern. If `branching`, the pattern is what remains
of the branches of an alternative. -/
def cost (direction : Direction) (branching : Bool) : Pattern → Nat
  | empty => withBranch branching stateCost
  | literal s => withBranch branching (stateCost * Text.size s)
  | set ranges => withBranch branching (setCost direction ranges)
  | textStart => withBranch branching stateCost
  | textEnd => withBranch branching stateCost
  | group _ body => withBranch branching (cost direction false body + direction.groupCost)
  | cat first second =>
      withBranch branching (cost direction false first + cost direction false second)
  | alt left right =>
      let counted := cost direction true left + cost direction true right
      if branching then counted
      else match words? (alt left right) with
        | some words => wordsCost direction words
        | none => 2 * stateCost + counted
  | times body least most _ =>
      withBranch branching
        (turnsCost (cost direction false body) body.neverEmpty least most)

/-- Whether every match starts with a test for the start of the text. -/
def testsStart : Pattern → Bool
  | textStart => true
  | group _ body => testsStart body
  | cat first second => testsStart first || (first.onlyEmpty && testsStart second)
  | alt left right => testsStart left && testsStart right
  | times body least _ _ => 0 < least && testsStart body
  | _ => false

/-- Whether every match ends with a test for the end of the text. -/
def testsEnd : Pattern → Bool
  | textEnd => true
  | group _ body => testsEnd body
  | cat first second => testsEnd second || (second.onlyEmpty && testsEnd first)
  | alt left right => testsEnd left && testsEnd right
  | times body least _ _ => 0 < least && testsEnd body
  | _ => false

/-- The states that skip the bytes on the near side of a match. -/
def skippingCost : Nat := forkCost 2 + tableCost 1 + stateCost

/-- The cost of the automaton that finds the ends of matches. The whole match is a
group too, and one state accepts. -/
def forwardsCost (p : Pattern) : Nat :=
  (if p.testsStart then stateCost else skippingCost) + cost .forwards false p +
    Direction.forwards.groupCost + stateCost

/-- The cost of the automaton that finds the starts of matches. -/
def backwardsCost (p : Pattern) : Nat :=
  (if p.testsEnd then stateCost else skippingCost) + cost .backwards false p +
    Direction.backwards.groupCost + stateCost

/-- Ten mebibytes. -/
def costLimit : Nat := 10 * 1024 * 1024

/-- Whether both automata keep to the limit. -/
def fits (p : Pattern) : Bool := p.forwardsCost ≤ costLimit && p.backwardsCost ≤ costLimit

end LexScan.Pattern
