import LexScan.Pattern
import Std.Data.TreeSet.Basic

/-!
# Matches of patterns

A match at a place is found by trying the ways in which the pattern can match in
order of preference: the left branch of an alternative before the right one, one
more turn of a greedy repetition before none, none before one more of a lazy one.
What has to follow the pattern is a parameter, so the first way after which
everything else succeeds is the match.

Wherever there are two ways to go on stands a choice with a number. A choice that
has been tried at a place is not tried there again: either both its ways have
failed, or the search is still inside one of them and has come round without
taking a character. So no text makes a search try more choices than there are at
all places together. The rule also decides what a repetition does whose body may be
empty: when `(a*|b)*` has taken the first two letters of `aab` and comes round, the
choice of `a*` to stop here has been tried, so the search turns to `b` and the
pattern takes all of the text.
-/

namespace LexScan.Pattern

/-- A place in a text: the number of characters before it and the text from it on. -/
structure Place where
  before : Nat
  rest : Text
deriving DecidableEq, Repr

/-- The choices that have been tried: the characters before each, and its number. -/
abbrev Tried := Std.TreeSet (Nat × Nat) (compareLex (compareOn Prod.fst) (compareOn Prod.snd))

/-- A search answers the place where the match ends, and adds to what was tried. -/
abbrev Search := Tried → Option Place × Tried

/-- Searches at a place for a match after which the rest succeeds. -/
abbrev Matcher := Place → (Place → Search) → Search

def fail : Search := fun tried => (none, tried)

/-- Ends the search with success. -/
def found (p : Place) : Search := fun tried => (some p, tried)

/-- The first of two searches, or else the second; neither if the choice between
them has been tried here. -/
def choose (number : Nat) (p : Place) (first second : Search) : Search := fun tried =>
  if tried.contains (p.before, number) then fail tried
  else
    match first (tried.insert (p.before, number)) with
    | (some q, tried) => (some q, tried)
    | (none, tried) => second tried

/-- A choice between one more turn and none. -/
def turnOrStop (greedy : Bool) (number : Nat) (p : Place) (turn stop : Search) : Search :=
  if greedy then choose number p turn stop else choose number p stop turn

/-- The place behind a literal. -/
def Place.skip? : Place → Text → Option Place
  | p, [] => some p
  | ⟨n, c :: t⟩, x :: s => if c = x then skip? ⟨n + 1, t⟩ s else none
  | ⟨_, []⟩, _ :: _ => none

/-- The number of choices in a pattern. A counted repetition has those of its body
for every turn, and one more. -/
def choices : Pattern → Nat
  | empty => 0
  | literal _ => 0
  | set _ => 0
  | textStart => 0
  | textEnd => 0
  | group _ body => choices body
  | cat first second => choices first + choices second
  | alt left right => choices left + choices right + 1
  | times body least most _ =>
      match most with
      | some most => most * (choices body + 1)
      | none => Nat.max least 1 * (choices body + 1) + 1

/-- Exactly `n` turns. The body is given the number of its first choice, and `width`
is how far the numbers of one turn are from those of the next. -/
def exactly (body : Nat → Matcher) (width : Nat) : Nat → Nat → Matcher
  | 0, _, p, next => next p
  | n + 1, number, p, next =>
      body (number + 1) p fun q => exactly body width n (number + width) q next

/-- At most `n` turns, each with choices of its own. -/
def atMost (body : Nat → Matcher) (width : Nat) (greedy : Bool) : Nat → Nat → Matcher
  | 0, _, p, next => next p
  | n + 1, number, p, next =>
      turnOrStop greedy number p
        (body (number + 1) p fun q => atMost body width greedy n (number + width) q next)
        (next p)

/-- Any number of turns, which share their choices. Every turn but one that leads
nowhere takes a character, so there are no more of them than characters in `left`,
the text that is left. -/
def again (body : Matcher) (greedy : Bool) (number : Nat) : (left : Text) → Matcher
  | [], p, next => turnOrStop greedy number p fail (next p)
  | _ :: left, p, next =>
      turnOrStop greedy number p
        (body p fun q => again body greedy number left q next) (next p)

/-- One turn and then any number of them. -/
def oneAndMore (body : Matcher) (greedy : Bool) (number : Nat) : Matcher := fun p next =>
  body p fun q => again body greedy number q.rest q next

/-- The matches of a pattern at a place, in order of preference. Its choices are
numbered from `number` on. Where a body that may be empty need not be repeated at
all, the choice of the first turn is another one than that of the turns after it. -/
def run : Pattern → (number : Nat) → Matcher
  | empty, _, p, next => next p
  | literal s, _, p, next =>
      match p.skip? s with
      | some q => next q
      | none => fail
  | set ranges, _, ⟨n, c :: t⟩, next => if ranges.contains c then next ⟨n + 1, t⟩ else fail
  | set _, _, ⟨_, []⟩, _ => fail
  | textStart, _, p, next => if p.before = 0 then next p else fail
  | textEnd, _, p, next => if p.rest.isEmpty then next p else fail
  | group _ body, number, p, next => run body number p next
  | cat first second, number, p, next =>
      run first number p fun q => run second (number + first.choices) q next
  | alt left right, number, p, next =>
      choose number p (run left (number + 1) p next)
        (run right (number + 1 + left.choices) p next)
  | times body least most greedy, number, p, next =>
      let width := body.choices + 1
      match most, least with
      | some most, least =>
          exactly (run body) width least number p fun q =>
            atMost (run body) width greedy (most - least) (number + least * width) q next
      | none, 0 =>
          if body.neverEmpty then again (run body (number + 1)) greedy number p.rest p next
          else
            turnOrStop greedy number p
              (oneAndMore (run body (number + 1)) greedy (number + width) p next) (next p)
      | none, least + 1 =>
          exactly (run body) width least number p fun q =>
            oneAndMore (run body (number + least * width + 1)) greedy
              (number + least * width + width) q next

/-- The place where a match that starts at a given place ends. -/
def endFrom? (p : Pattern) (place : Place) : Option Place :=
  (p.run 0 place found {}).1

/-- The text matched at the start of `t`. -/
def atStart? (p : Pattern) (t : Text) : Option Text :=
  (p.endFrom? ⟨0, t⟩).map fun q => t.take q.before

/-- The first match at or after a place, as the places of its two ends. -/
def search (p : Pattern) : Nat → Text → Option (Nat × Nat)
  | n, [] => (p.endFrom? ⟨n, []⟩).map fun q => (n, q.before)
  | n, c :: t =>
      match p.endFrom? ⟨n, c :: t⟩ with
      | some q => some (n, q.before)
      | none => search p (n + 1) t

/-- The leftmost match in a text: the characters before it and its own. -/
def find? (p : Pattern) (t : Text) : Option (Text × Text) :=
  (search p 0 t).map fun (first, last) => (t.take first, (t.take last).drop first)

theorem atStart?_prefix {p : Pattern} {t piece : Text} (h : p.atStart? t = some piece) :
    piece <+: t := by
  obtain ⟨q, _, rfl⟩ := Option.map_eq_some_iff.mp h
  exact List.take_prefix q.before t

theorem le_of_search {p : Pattern} {t : Text} {n first last : Nat}
    (h : p.search n t = some (first, last)) : n ≤ first := by
  induction t generalizing n with
  | nil =>
      obtain ⟨q, _, hq⟩ := Option.map_eq_some_iff.mp h
      exact Nat.le_of_eq (congrArg Prod.fst hq)
  | cons c t ih =>
      rw [search] at h
      split at h
      · exact Nat.le_of_eq (congrArg Prod.fst (Option.some.inj h))
      · have := ih h
        omega

/-- A match at the start is the leftmost match that has nothing before it. -/
theorem atStart?_eq_some_iff {p : Pattern} {t piece : Text} :
    p.atStart? t = some piece ↔ p.find? t = some ([], piece) := by
  rw [atStart?, find?]
  cases t with
  | nil => cases hend : p.endFrom? ⟨0, []⟩ <;> simp [search, hend]
  | cons c t =>
      cases hend : p.endFrom? ⟨0, c :: t⟩ with
      | some q => simp [search, hend]
      | none =>
          simp only [search, hend, Option.map_none, reduceCtorEq, false_iff]
          intro h
          obtain ⟨⟨first, last⟩, hsearch, hpair⟩ := Option.map_eq_some_iff.mp h
          have hfirst := le_of_search hsearch
          have hnil : (c :: t).take first = [] := congrArg Prod.fst hpair
          have : first = 0 := by simpa using hnil
          omega

@[simp] theorem run_empty (number : Nat) (p : Place) (next : Place → Search) :
    run empty number p next = next p := rfl

@[simp] theorem run_group (k number : Nat) (body : Pattern) (p : Place)
    (next : Place → Search) : run (group k body) number p next = run body number p next := rfl

@[simp] theorem run_cat (a b : Pattern) (number : Nat) (p : Place) (next : Place → Search) :
    run (cat a b) number p next =
      run a number p fun q => run b (number + a.choices) q next := rfl

end LexScan.Pattern
