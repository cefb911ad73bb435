import LexScan.CharClass
import LexScan.Text

/-!
# Tokens of written patterns

A written pattern is read in two steps. This module cuts it into tokens from
left to right: a token is a single character test, an anchor, a bracket class,
a parenthesis, a bar, a flag or a repetition. Where the text is no pattern the
reader answers `none`.

A token never depends on what follows it, apart from the question mark that
makes a repetition lazy, so a closing parenthesis written after a readable text
adds one token to its tokens.
-/

namespace LexScan.Pattern

inductive Token where
  | char (c : Char)
  | any
  /-- A bracket class: a character in one of the ranges, or in none if `negated`. -/
  | set (negated : Bool) (ranges : List (Char × Char))
  | textStart
  | textEnd
  | bar
  /-- Sets for the rest of the group whether the dot stands for a line feed too. -/
  | dotAll (on : Bool)
  /-- Opens a group that counts or not, with a setting of its own for the dot if one
  is given. -/
  | groupOpen (counts : Bool) (dotAll : Option Bool)
  | groupClose
  | times (least : Nat) (most : Option Nat) (greedy : Bool)
deriving DecidableEq, Repr

/-- The character that an escape stands for: a control character by its letter,
or a punctuation mark by itself. -/
def escapedChar? (c : Char) : Option Char :=
  if c = 'n' then some '\n'
  else if c = 'r' then some '\r'
  else if c = 't' then some '\t'
  else if c = 'a' then some '\x07'
  else if c = 'f' then some '\x0c'
  else if c = 'v' then some '\x0b'
  else if c.toNat < 128 ∧ ¬c.isAlphanum ∧ c ≠ '<' ∧ c ≠ '>' then some c
  else none

/-- One member of a bracket class, escaped or not. -/
def classChar? : Text → Option (Char × Text)
  | [] => none
  | c :: t =>
      if c = '\\' then
        match t with
        | [] => none
        | e :: t => (escapedChar? e).map (·, t)
      else some (c, t)

/-- Whether a class operation, which is not read, starts here. -/
def startsClassOperation : Text → Bool
  | '[' :: _ => true
  | '&' :: '&' :: _ => true
  | '-' :: '-' :: _ => true
  | '~' :: '~' :: _ => true
  | _ => false

/-- The members up to the closing bracket; at most `fuel` of them. -/
def classMembers? (fuel : Nat) (t : Text) (ranges : List (Char × Char)) :
    Option (List (Char × Char) × Text) :=
  match fuel with
  | 0 => none
  | fuel + 1 =>
      match t with
      | ']' :: t => some (ranges.reverse, t)
      | t =>
          if startsClassOperation t then none
          else match classChar? t with
            | none => none
            | some (lo, '-' :: u) =>
                if u.head? = some ']' ∨ u.head? = some '-' then
                  classMembers? fuel ('-' :: u) ((lo, lo) :: ranges)
                else match classChar? u with
                  | none => none
                  | some (hi, v) =>
                      if lo.toNat ≤ hi.toNat then classMembers? fuel v ((lo, hi) :: ranges)
                      else none
            | some (lo, u) => classMembers? fuel u ((lo, lo) :: ranges)

/-- A bracket class after its opening bracket. Hyphens at its start stand for
themselves, and so does a closing bracket that comes first. -/
def class? (t : Text) : Option (Token × Text) :=
  let negated := t.head? = some '^'
  let t := if negated then t.tail else t
  let hyphens := t.takeWhile (· = '-')
  let u := t.dropWhile (· = '-')
  let members := hyphens.map fun c => (c, c)
  let found :=
    if hyphens = [] ∧ u.head? = some ']' then
      classMembers? u.length u.tail [(']', ']')]
    else classMembers? (u.length + 1) u members
  found.map fun (ranges, rest) => (.set negated ranges, rest)

/-- A repetition, which a question mark makes lazy. -/
def repetition (least : Nat) (most : Option Nat) : Text → Token × Text
  | '?' :: t => (.times least most false, t)
  | t => (.times least most true, t)

/-- A decimal number below 2^32 with white space around it. -/
def count? (t : Text) : Option (Nat × Text) :=
  let t := t.dropWhile CharClass.isWhiteSpace
  let digits := t.takeWhile Char.isDigit
  let n := Nat.ofDigitChars 10 digits 0
  if digits = [] ∨ UInt32.size ≤ n then none
  else some (n, (t.dropWhile Char.isDigit).dropWhile CharClass.isWhiteSpace)

/-- A counted repetition after its opening brace. -/
def counted? (t : Text) : Option (Token × Text) :=
  match count? t with
  | none => none
  | some (least, '}' :: u) => some (repetition least (some least) u)
  | some (least, ',' :: '}' :: u) => some (repetition least none u)
  | some (least, ',' :: u) =>
      match count? u with
      | some (most, '}' :: v) =>
          if least ≤ most then some (repetition least (some most) v) else none
      | _ => none
  | some _ => none

/-- What follows an opening parenthesis with a question mark. -/
def flags? : Text → Option (Token × Text)
  | ':' :: t => some (.groupOpen false none, t)
  | 's' :: ')' :: t => some (.dotAll true, t)
  | 's' :: ':' :: t => some (.groupOpen false (some true), t)
  | '-' :: 's' :: ')' :: t => some (.dotAll false, t)
  | '-' :: 's' :: ':' :: t => some (.groupOpen false (some false), t)
  | _ => none

/-- What a backslash stands for together with the character after it. -/
def escape? : Text → Option (Token × Text)
  | 'A' :: t => some (.textStart, t)
  | 'z' :: t => some (.textEnd, t)
  | c :: t => (escapedChar? c).map fun c => (.char c, t)
  | [] => none

/-- The token that starts with a given character. -/
def token? (c : Char) (t : Text) : Option (Token × Text) :=
  match c with
  | '\\' => escape? t
  | '.' => some (.any, t)
  | '^' => some (.textStart, t)
  | '$' => some (.textEnd, t)
  | '|' => some (.bar, t)
  | ')' => some (.groupClose, t)
  | '[' => class? t
  | '(' =>
      match t with
      | '?' :: t => flags? t
      | t => some (.groupOpen true none, t)
  | '*' => some (repetition 0 none t)
  | '+' => some (repetition 1 none t)
  | '?' => some (repetition 0 (some 1) t)
  | '{' => counted? t
  | c => some (.char c, t)

/-- The first `fuel` tokens of a text that has no more of them. -/
def tokensWithin? : Nat → Text → Option (List Token)
  | _, [] => some []
  | 0, _ :: _ => none
  | fuel + 1, c :: t =>
      match token? c t with
      | none => none
      | some (token, rest) => (tokensWithin? fuel rest).map (token :: ·)

/-- The tokens of a written pattern. Each of them takes a character at least. -/
def tokens? (t : Text) : Option (List Token) := tokensWithin? t.length t

end LexScan.Pattern
