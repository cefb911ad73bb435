import LexScan.Text

/-!
# Failures of checked steps

A checked step fails in one of two ways: the text does not continue as asked,
or there is not enough of it left.
-/

namespace LexScan

inductive ScanFailure where
  /-- The text at hand does not satisfy the step. -/
  | noMatch
  /-- The step needs more characters than are left, or a place outside the text. -/
  | outOfRange
deriving DecidableEq, Repr

def ScanFailure.message : ScanFailure → Text
  | noMatch => "no match".toList
  | outOfRange => "unexpected end of input".toList

/-- A failure and the byte offset at which the step was tried. -/
structure ScanError where
  failure : ScanFailure
  offset : Nat
deriving DecidableEq, Repr

def ScanError.message (e : ScanError) : Text :=
  e.failure.message ++ " at offset ".toList ++ Text.ofNat e.offset

end LexScan
