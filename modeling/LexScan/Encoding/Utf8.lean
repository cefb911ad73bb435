import LexScan.Encoding.Reading

/-!
# UTF-8

The lead byte of a character tells how many bytes follow and which values the
first of them may take; the narrower ranges leave out overlong forms,
surrogates and everything above U+10FFFF. A malformed sequence is the longest
run of bytes that could still have begun a character, or one byte if none could.
-/

namespace LexScan.Encoding.Utf8

/-- What a lead byte announces: the number of continuation bytes, the least and
greatest value of the first of them, and its own share of the code point. -/
structure Lead where
  count : Nat
  lo : UInt8
  hi : UInt8
  bits : Nat
deriving DecidableEq, Repr

def lead? (b : UInt8) : Option Lead :=
  if b < 0x80 then some ⟨0, 0x80, 0xBF, b.toNat⟩
  else if b < 0xC2 then none
  else if b < 0xE0 then some ⟨1, 0x80, 0xBF, b.toNat - 0xC0⟩
  else if b = 0xE0 then some ⟨2, 0xA0, 0xBF, 0⟩
  else if b = 0xED then some ⟨2, 0x80, 0x9F, 0xD⟩
  else if b < 0xF0 then some ⟨2, 0x80, 0xBF, b.toNat - 0xE0⟩
  else if b = 0xF0 then some ⟨3, 0x90, 0xBF, 0⟩
  else if b < 0xF4 then some ⟨3, 0x80, 0xBF, b.toNat - 0xF0⟩
  else if b = 0xF4 then some ⟨3, 0x80, 0x8F, 4⟩
  else none

/-- The code point after `count` continuation bytes, or how many of them there
are before one that does not fit; `got` counts those already read. -/
def continuation : (count : Nat) → (lo hi : UInt8) → (bits got : Nat) → Bytes →
    Except Nat Nat
  | 0, _, _, bits, _, _ => .ok bits
  | _ + 1, _, _, _, got, [] => .error got
  | count + 1, lo, hi, bits, got, b :: bytes =>
      if lo ≤ b ∧ b ≤ hi then
        continuation count 0x80 0xBF (bits * 64 + (b.toNat - 0x80)) (got + 1) bytes
      else .error got

def next : Reader Unit := fun _ b bytes =>
  match lead? b with
  | none => .bad 1 0
  | some lead =>
      match continuation lead.count lead.lo lead.hi lead.bits 0 bytes with
      | .ok codePoint => .char (1 + lead.count) (Char.ofNat codePoint) ()
      | .error got => .bad (1 + got) 0

/-- The byte order mark. -/
def mark : Bytes := [0xEF, 0xBB, 0xBF]

end LexScan.Encoding.Utf8
