import LexScan.Pattern.Size
import LexScan.Pattern.Token

/-!
# Reading patterns

The tokens of a written pattern become a tree one by one. The reader keeps the
group that is open at the moment and, as a stack, the groups around it; a
closing parenthesis with nothing around it, a group that stays open, and a
repetition with nothing to repeat make the text no pattern.

Neither is a text a pattern that nests too deeply or whose automata are too large.
Depth is counted as the pattern is written, so a group adds to it even where it
makes no difference to what is matched.
-/

namespace LexScan.Pattern

/-- A part of a written pattern: what it stands for, and how many groups,
repetitions, bracket classes, rows and alternatives stand inside one another in it. -/
structure Part where
  pattern : Pattern
  depth : Nat
deriving DecidableEq, Repr

/-- What stands in a branch of a group. A flag takes a place but matches nothing. -/
inductive Item where
  | part (p : Part)
  | flag
deriving DecidableEq, Repr

namespace Item

def pattern : Item → Pattern
  | part p => p.pattern
  | flag => .empty

def depth : Item → Nat
  | part p => p.depth
  | flag => 0

end Item

/-- The greatest of some depths. -/
def greatest (depths : List Nat) : Nat := depths.foldl Nat.max 0

/-- The depth of some things that are put together: one alone adds nothing. -/
def depthTogether : List Nat → Nat
  | [] => 0
  | [depth] => depth
  | depths => greatest depths + 1

/-- The items of a branch in a row; the list has the last of them first. -/
def Part.ofItems (items : List Item) : Part where
  pattern := row (items.reverse.map Item.pattern)
  depth := depthTogether (items.map Item.depth)

/-- An alternative between branches; the list has the last of them first. -/
def Part.ofBranches (branches : List Part) : Part where
  pattern := choice (branches.reverse.map Part.pattern)
  depth := depthTogether (branches.map Part.depth)

/-- A group that is being read: its finished branches and the items of the
branch at hand, both with the last one first, what its dot stands for, and its
number if it counts. -/
structure Group where
  branches : List Part := []
  items : List Item := []
  dotAll : Bool := false
  number : Option Nat := none
deriving DecidableEq, Repr

namespace Group

/-- What stands in the group, its first branch preferred. -/
def body (g : Group) : Part := Part.ofBranches (Part.ofItems g.items :: g.branches)

/-- The group as a part of the one around it. -/
def close (g : Group) : Part where
  pattern :=
    match g.number with
    | some number => .group number g.body.pattern
    | none => g.body.pattern
  depth := g.body.depth + 1

end Group

/-- Depths that are still read. -/
def depthLimit : Nat := 250

/-- The open group and the ones around it, the innermost first, and how many groups
that count have been opened. -/
structure Nest where
  group : Group := {}
  around : List Group := []
  counted : Nat := 0
deriving DecidableEq, Repr

namespace Nest

/-- The state after one more part of the open group. -/
def push? (s : Nest) (p : Part) : Option Nest :=
  if p.depth ≤ depthLimit then
    some { s with group := { s.group with items := .part p :: s.group.items } }
  else none

/-- The characters of a bracket class. -/
def classRanges (negated : Bool) (ranges : List (Char × Char)) : CodeRanges :=
  let members := CodeRanges.ofRanges (ranges.map fun (lo, hi) => (lo.toNat, hi.toNat))
  if negated then members.complement else members

/-- The characters that the dot stands for. -/
def dotRanges (dotAll : Bool) : CodeRanges :=
  classRanges true (if dotAll then [] else [('\n', '\n')])

/-- The state after one more token. -/
def step? (s : Nest) : Token → Option Nest
  | .char c => s.push? ⟨.literal [c], 0⟩
  | .any => s.push? ⟨ofRanges (dotRanges s.group.dotAll), 0⟩
  | .set negated ranges =>
      s.push? ⟨ofRanges (classRanges negated ranges), if ranges.length ≤ 1 then 1 else 2⟩
  | .textStart => s.push? ⟨.textStart, 0⟩
  | .textEnd => s.push? ⟨.textEnd, 0⟩
  | .bar =>
      some { s with group :=
        { s.group with
          branches := Part.ofItems s.group.items :: s.group.branches, items := [] } }
  | .dotAll on =>
      some { s with group := { s.group with items := .flag :: s.group.items, dotAll := on } }
  | .groupOpen counts dotAll =>
      let counted := if counts then s.counted + 1 else s.counted
      some {
        group := {
          dotAll := dotAll.getD s.group.dotAll
          number := if counts then some counted else none }
        around := s.group :: s.around
        counted }
  | .groupClose =>
      match s.around with
      | [] => none
      | outer :: around => { s with group := outer, around := around }.push? s.group.close
  | .times least most greedy =>
      match s.group.items with
      | .part p :: items =>
          { s with group := { s.group with items := items } }.push?
            ⟨repeated p.pattern least most greedy, p.depth + 1⟩
      | _ => none

/-- The pattern, once every group but the outermost is closed. -/
def finish? (s : Nest) : Option Pattern :=
  let whole := s.group.body
  if s.around.isEmpty ∧ whole.depth ≤ depthLimit ∧ whole.pattern.fits then some whole.pattern
  else none

end Nest

/-- The pattern that a text writes down. -/
def read? (t : Text) : Option Pattern :=
  (tokens? t).bind fun tokens =>
    (tokens.foldlM Nest.step? ({} : Nest)).bind Nest.finish?

/-- A text put into a group that is tied to the start of the text it is matched
against. -/
def anchor (t : Text) : Text := "\\A(?:".toList ++ t ++ ")".toList

/-- The pattern that a text writes down, tied to the start of the text. -/
def readAnchored? (t : Text) : Option Pattern := read? (anchor t)

end LexScan.Pattern
