import LexScan.CodeRanges

/-!
# Byte forms of ranges of characters

The UTF-8 forms of the characters of a range are described by rows of byte ranges:
a row stands for every sequence with its first byte in the first range, its second
byte in the second one, and so on. A range of code points needs several rows, since
a row has one length and lets each byte vary on its own.
-/

namespace LexScan

/-- One range for each byte, with both its ends. -/
abbrev ByteForm := List (Nat × Nat)

namespace ByteForm

/-- The rows for `first` to `last`, which are to be written with `extra` bytes after
the lead byte, each holding six bits. A lead byte is `lead` more than its bits. -/
def ofBits : (extra lead first last : Nat) → List ByteForm
  | 0, lead, first, last => [[(lead + first, lead + last)]]
  | extra + 1, lead, first, last =>
      let block := Nat.pow 64 (extra + 1)
      let low := first / block
      let high := last / block
      let before (n : Nat) (forms : List ByteForm) : List ByteForm :=
        forms.map ((lead + n, lead + n) :: ·)
      if low = high then before low (ofBits extra 0x80 (first % block) (last % block))
      else
        let cutFirst := first % block ≠ 0
        let cutLast := last % block + 1 ≠ block
        let fullLow := if cutFirst then low + 1 else low
        let fullHigh := if cutLast then high - 1 else high
        (if cutFirst then before low (ofBits extra 0x80 (first % block) (block - 1)) else []) ++
        (if fullLow ≤ fullHigh then
          [(lead + fullLow, lead + fullHigh) :: List.replicate (extra + 1) (0x80, 0xBF)]
        else []) ++
        (if cutLast then before high (ofBits extra 0x80 0 (last % block)) else [])

/-- The code points of one length, without those that are no characters: the first
and the last of them, the bytes after the lead byte, and the least lead byte. -/
def lengths : List (Nat × Nat × Nat × Nat) :=
  [(0, 0x7F, 0, 0), (0x80, 0x7FF, 1, 0xC0), (0x800, 0xD7FF, 2, 0xE0), (0xE000, 0xFFFF, 2, 0xE0),
   (0x10000, 0x10FFFF, 3, 0xF0)]

/-- The rows for the characters of a range of code points, in ascending order. -/
def ofRange (first last : Nat) : List ByteForm :=
  lengths.flatMap fun (lo, hi, extra, lead) =>
    let lo := Nat.max first lo
    let hi := Nat.min last hi
    if lo ≤ hi then ofBits extra lead lo hi else []

/-- The rows for a set of characters. -/
def ofSet (set : CodeRanges) : List ByteForm :=
  set.flatMap fun (first, last) => ofRange first last

/-- Ascending rows, gathered by the first range: what follows each first range. -/
def byFirst : List ByteForm → List ((Nat × Nat) × List ByteForm)
  | [] => []
  | [] :: forms => byFirst forms
  | (range :: form) :: forms =>
      match byFirst forms with
      | (next, rest) :: more =>
          if next = range then (range, form :: rest) :: more
          else (range, [form]) :: (next, rest) :: more
      | [] => [(range, [form])]

/-- What is left of ascending rows after any number of bytes, but for the end of
them; at most `length` bytes are taken. -/
def remainders : (length : Nat) → List ByteForm → List (List ByteForm)
  | 0, _ => []
  | length + 1, forms =>
      if forms = [[]] then []
      else forms :: (byFirst forms).flatMap fun (_, rest) => remainders length rest

end ByteForm

end LexScan
