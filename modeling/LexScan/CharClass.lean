import LexScan.Text
import LexScan.Unicode.Alphabetic
import LexScan.Unicode.Letter
import LexScan.Unicode.DecimalDigit
import LexScan.Unicode.Uppercase
import LexScan.Unicode.Lowercase
import LexScan.Unicode.WhiteSpace

/-!
# Classes of characters

The classes that runs of characters are made of, and the tests on single
characters that a caller can ask for: a class, a range of code points, one
character or all others, a set of characters or its complement.
-/

namespace LexScan

/-- A class of characters by Unicode property or general category. -/
inductive CharClass where
  | alphabetic | letter | digit | letterOrDigit | upperCase | lowerCase | whiteSpace
deriving DecidableEq, Repr

namespace CharClass

def isLetter (c : Char) : Bool := Unicode.holds Unicode.letters c.toNat

def isDecimalDigit (c : Char) : Bool := Unicode.holds Unicode.decimalDigits c.toNat

def isWhiteSpace (c : Char) : Bool := Unicode.holds Unicode.whiteSpace c.toNat

def contains : CharClass → Char → Bool
  | alphabetic, c => Unicode.holds Unicode.alphabetic c.toNat
  | letter, c => isLetter c
  | digit, c => isDecimalDigit c
  | letterOrDigit, c => isLetter c || isDecimalDigit c
  | upperCase, c => Unicode.holds Unicode.uppercase c.toNat
  | lowerCase, c => Unicode.holds Unicode.lowercase c.toNat
  | whiteSpace, c => isWhiteSpace c

end CharClass

/-- A set of characters that a caller lists. -/
structure CharSet where
  members : List Char
deriving DecidableEq, Repr

def CharSet.contains (s : CharSet) (c : Char) : Bool := s.members.contains c

/-- A test on one character. -/
inductive CharTest where
  | inClass (k : CharClass)
  | between (lo hi : Char)
  | equals (c : Char)
  | differs (c : Char)
  | oneOf (s : CharSet)
  | noneOf (s : CharSet)
deriving DecidableEq, Repr

def CharTest.accepts : CharTest → Char → Bool
  | inClass k, c => k.contains c
  | between lo hi, c => lo.toNat ≤ c.toNat && c.toNat ≤ hi.toNat
  | equals x, c => c == x
  | differs x, c => c != x
  | oneOf s, c => s.contains c
  | noneOf s, c => !s.contains c

/-- The text without the white space at its two ends. -/
def Text.trim (t : Text) : Text :=
  ((t.dropWhile CharClass.isWhiteSpace).reverse.dropWhile CharClass.isWhiteSpace).reverse

end LexScan
