import LexScan.Encoding.Gb18030.Ranges
import LexScan.Encoding.Reading

/-!
# gb18030

Characters of one, two or four bytes; GBK text is read in the same way. The four
byte forms are held here in full. The two byte characters take a table, which is a
parameter.
-/

namespace LexScan.Encoding.Gb18030

/-- The code point of a four-byte pointer. -/
def fourByteCodePoint? (pointer : Nat) : Option Nat :=
  if 189000 ≤ pointer ∧ pointer ≤ 1237575 then some (0x10000 + (pointer - 189000))
  else if 39420 ≤ pointer then none
  else (ranges.takeWhile (·.1 ≤ pointer)).getLast?.map fun (first, codePoint) =>
    codePoint + (pointer - first)

/-- The pointer of a four-byte sequence. -/
def pointer (a b c d : UInt8) : Nat :=
  (((a.toNat - 0x81) * 10 + (b.toNat - 0x30)) * 126 + (c.toNat - 0x81)) * 10 + (d.toNat - 0x30)

def isLead (b : UInt8) : Bool := 0x81 ≤ b && b ≤ 0xFE

def isDigit (b : UInt8) : Bool := 0x30 ≤ b && b ≤ 0x39

/-- A four-byte sequence behind its first two bytes. -/
def nextFour (a b : UInt8) : Bytes → Reading Unit
  | [] => .bad 2 0
  | [c] => if isLead c then .bad 3 0 else .bad 1 2
  | c :: d :: _ =>
      if ¬isLead c then .bad 1 2
      else if ¬isDigit d then .bad 1 3
      else match fourByteCodePoint? (pointer a b c d) with
        | some codePoint => .char 4 (Char.ofNat codePoint) ()
        | none => .bad 4 0

/-- The place of a pair in rows of 190. -/
def place (a b : UInt8) : Nat :=
  (a.toNat - 0x81) * 190 + (b.toNat - if b < 0x7F then 0x40 else 0x41)

/-- The character of two bytes. -/
def pair? (table : Nat → Option Char) (a b : UInt8) : Option Char :=
  if (0x40 ≤ b ∧ b ≤ 0x7E) ∨ (0x80 ≤ b ∧ b ≤ 0xFE) then table (place a b) else none

def next (table : Nat → Option Char) : Reader Unit := fun _ a bytes =>
  if a < 0x80 then .ascii a ()
  else if a = 0x80 then .char 1 '€' ()
  else if a = 0xFF then .bad 1 0
  else match bytes with
    | [] => .bad 1 0
    | b :: bytes =>
        if isDigit b then nextFour a b bytes
        else match pair? table a b with
          | some c => .char 2 c ()
          | none => if b < 0x80 then .bad 1 1 else .bad 2 0

end LexScan.Encoding.Gb18030
