import LexScan.Text

/-!
# File name patterns

A pattern is written as a path whose names may hold wildcards: a question mark
for one character, an asterisk for any number of them, a bracket class, or two
asterisks as a whole name for any number of directories. A pattern that is
ill-formed tells where, counted in characters.
-/

namespace LexScan.Glob

/-- A part of a written name. -/
inductive Token where
  | char (c : Char)
  | anyChar
  | anySequence
  /-- Two asterisks. -/
  | anyDirectories
  /-- A character in one of the ranges, or in none of them if `negated`. -/
  | set (negated : Bool) (ranges : List (Char × Char))
deriving DecidableEq, Repr

inductive Fault where
  /-- More than two asterisks in a row. -/
  | wildcards
  /-- Two asterisks that are only part of a name. -/
  | recursiveWildcards
  /-- A bracket class that is empty or not closed. -/
  | invalidRange
deriving DecidableEq, Repr

/-- What is wrong with a pattern, and where. -/
structure PatternError where
  position : Nat
  fault : Fault
deriving DecidableEq, Repr

def Fault.message : Fault → Text
  | wildcards => "wildcards are either regular `*` or recursive `**`".toList
  | recursiveWildcards => "recursive wildcards must form a single path component".toList
  | invalidRange => "invalid range pattern".toList

def PatternError.message (e : PatternError) : Text :=
  "Pattern syntax error near position ".toList ++ Text.ofNat e.position ++ [':', ' ']
    ++ e.fault.message

/-- The ranges between brackets; a hyphen between two characters makes a range. -/
def classRanges : Text → List (Char × Char)
  | a :: '-' :: b :: t => (a, b) :: classRanges t
  | a :: t => (a, a) :: classRanges t
  | [] => []

/-- A bracket class after its opening bracket. Its first character is a member
even if it is a closing bracket. -/
def class? (t : Text) : Option (Token × Text) :=
  let negated := t.head? = some '!'
  let members := if negated then t.tail else t
  match members with
  | [] => none
  | c :: t =>
      if ']' ∈ t then
        some (.set negated (classRanges (c :: t.takeWhile (· ≠ ']'))),
          (t.dropWhile (· ≠ ']')).tail)
      else none

/-- The tokens of a text that stands at a position behind a character; `fuel` is
at least its length. -/
def tokensFrom : (fuel position : Nat) → (before : Option Char) → Text →
    Except PatternError (List Token)
  | _, _, _, [] => .ok []
  | 0, _, _, _ :: _ => .ok []
  | fuel + 1, position, before, c :: t =>
      if c = '?' then do
        return .anyChar :: (← tokensFrom fuel (position + 1) (some c) t)
      else if c = '*' then
        let more := t.takeWhile (· = '*')
        let rest := t.dropWhile (· = '*')
        if more = [] then do
          return .anySequence :: (← tokensFrom fuel (position + 1) (some c) rest)
        else if more ≠ ['*'] then .error ⟨position + 2, .wildcards⟩
        else if before ≠ none ∧ before ≠ some '/' then
          .error ⟨position - 1, .recursiveWildcards⟩
        else match rest with
          | [] => .ok [.anyDirectories]
          | d :: rest =>
              if d = '/' then do
                return .anyDirectories :: (← tokensFrom fuel (position + 3) (some d) rest)
              else .error ⟨position + 2, .recursiveWildcards⟩
      else if c = '[' then
        match class? t with
        | none => .error ⟨position, .invalidRange⟩
        | some (token, rest) => do
            let taken := t.length - rest.length
            return token :: (← tokensFrom fuel (position + 1 + taken) (some ']') rest)
      else do
        return .char c :: (← tokensFrom fuel (position + 1) (some c) t)

def tokens (t : Text) : Except PatternError (List Token) := tokensFrom t.length 0 none t

def Token.accepts : Token → Char → Bool
  | char x, c => c == x
  | set negated ranges, c =>
      (ranges.any fun (lo, hi) => lo.toNat ≤ c.toNat && c.toNat ≤ hi.toNat) != negated
  | _, _ => true

/-- Whether some rest of a text, the whole text first, satisfies a test. -/
def anyRest (test : Text → Bool) : Text → Bool
  | [] => test []
  | c :: t => test (c :: t) || anyRest test t

/-- Whether a name fits the tokens. -/
def fits : List Token → Text → Bool
  | [], t => t.isEmpty
  | .anySequence :: tokens, t => anyRest (fits tokens) t
  | .anyDirectories :: tokens, t => anyRest (fits tokens) t
  | _ :: _, [] => false
  | token :: tokens, c :: t => token.accepts c && fits tokens t

/-- The name that a list of tokens spells out, if it has no wildcards. -/
def literal? : List Token → Option Text
  | [] => some []
  | .char c :: tokens => (literal? tokens).map (c :: ·)
  | _ :: _ => none

end LexScan.Glob

namespace LexScan

/-- A pattern for paths: the names from the top down, each as its tokens. -/
structure Glob where
  /-- The pattern starts from the root. -/
  absolute : Bool
  names : List (List Glob.Token)
  /-- Only directories are meant. -/
  directoriesOnly : Bool
deriving DecidableEq, Repr

namespace Glob

/-- The pieces of a path between its slashes; a slash at its end adds none. -/
def pathNames (path : Text) : List Text :=
  let names := path.splitOn '/'
  if names.getLast? = some [] then names.dropLast else names

/-- The pattern that a text writes down. The text has to be well-formed as a whole
and in each of its names. -/
def parse (t : Text) : Except PatternError Glob := do
  let _ ← tokens t
  let absolute := t.head? = some '/'
  let path := if absolute then t.tail else t
  let names ← (pathNames path).mapM tokens
  return ⟨absolute, if path = [] then names ++ [[]] else names, t.getLast? = some '/'⟩

end Glob

end LexScan
