import LexScan.LineBreak
import LexScan.Log
import LexScan.ScanError
import LexScan.Text.Quoted

/-!
# Scanning from an explicit offset

The steps of a cursor for callers that keep the position themselves. A `skip`
function answers the offset behind what it scanned, and the function without
`skip` in its name the text in between. From an offset that is no boundary of
the text there is nothing to scan: the text is empty and the offset stays.
-/

namespace LexScan.OffsetScan

/-- The text from an offset on; nothing if the offset is no boundary. -/
def rest (t : Text) (offset : Nat) : Text := (t.from? offset).getD []

/-- The text between two offsets; nothing if they are no boundaries. -/
def stretch (t : Text) (first last : Nat) : Text := (t.slice? first last).getD []

/-- The offset of the first character that fails a test, or of the end, where
the text itself starts at `offset`. -/
def runEnd (test : Char → Bool) : Text → Nat → Nat
  | [], offset => offset
  | c :: t, offset => if test c then runEnd test t (offset + c.utf8Size) else offset

/-- The offset of the first occurrence of a needle, or of the end, where the
text itself starts at `offset`. -/
def needleStart (needle : Text) : Text → Nat → Nat
  | [], offset => offset
  | c :: t, offset =>
      if needle.isPrefixOf (c :: t) then offset
      else needleStart needle t (offset + c.utf8Size)

/-- Fails unless the offset is a boundary of the text. -/
def checkOffset (t : Text) (offset : Nat) : Except ScanError Unit :=
  if t.IsBoundary offset then .ok () else .error ⟨.outOfRange, offset⟩

def skipSatisfying (t : Text) (offset : Nat) (test : Char → Bool) : Nat :=
  runEnd test (rest t offset) offset

def satisfying (t : Text) (offset : Nat) (test : Char → Bool) : Text :=
  stretch t offset (skipSatisfying t offset test)

def skipTill (t : Text) (offset : Nat) (needle : Text) : Nat :=
  needleStart needle (rest t offset) offset

def till (t : Text) (offset : Nat) (needle : Text) : Text :=
  stretch t offset (skipTill t offset needle)

def skipRestOfLine (mode : LineBreakMode) (t : Text) (offset : Nat)
    (withTerminator : Bool) : Nat :=
  match mode.findTerminator? (rest t offset) with
  | some (first, last) => offset + if withTerminator then last else first
  | none => offset + (rest t offset).size

def restOfLine (mode : LineBreakMode) (t : Text) (offset : Nat)
    (withTerminator : Bool) : Text :=
  stretch t offset (skipRestOfLine mode t offset withTerminator)

/-- The needle, if the text continues with it at the offset. -/
def literal (t : Text) (offset : Nat) (needle : Text) : Except ScanError Text := do
  checkOffset t offset
  let found := (rest t offset).take needle.length
  if found = needle then .ok found
  else if found.length < needle.length then .error ⟨.outOfRange, offset⟩
  else .error ⟨.noMatch, offset⟩

/-- The offset behind the needle, if the text continues with it. -/
def skipLiteral (t : Text) (offset : Nat) (needle : Text) : Except ScanError Nat :=
  (literal t offset needle).map fun found => offset + found.size

/-- What is recorded of a literal that is not found at an offset inside the text. -/
def literalRecord (t : Text) (needle : Text) (e : ScanError) : List Log.Record :=
  if t.IsBoundary e.offset then
    [⟨.trace, "literal ".toList ++ needle.quoted
      ++ (match e.failure with
          | .outOfRange => " runs past the end of input at offset ".toList
          | .noMatch => " does not match at offset ".toList)
      ++ Text.ofNat e.offset⟩]
  else []

/-- The needle, with a record of the failure. -/
def literalLogged (t : Text) (offset : Nat) (needle : Text) :
    Logged (Except ScanError Text) :=
  match literal t offset needle with
  | .ok found => ⟨.ok found, []⟩
  | .error e => ⟨.error e, literalRecord t needle e⟩

/-- The offset behind the needle, with a record of the failure. -/
def skipLiteralLogged (t : Text) (offset : Nat) (needle : Text) :
    Logged (Except ScanError Nat) :=
  (fun r => r.map fun found => offset + found.size) <$> literalLogged t offset needle

end LexScan.OffsetScan
