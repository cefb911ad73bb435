import LexScan.Text

/-!
# Reading bytes as characters

An encoding is given by a reader: what stands at the start of the bytes that
are left. It is either a number of bytes that say something, or a malformed
sequence. To find a sequence malformed a reader may have to look at bytes
behind it, which then belong to what follows; so a malformed reading tells how
many bytes were read in all, how many of them lie ahead, and how many before
these are the malformed ones.

Decoding stops at the first malformed sequence and keeps the text before it.
-/

namespace LexScan

abbrev Bytes := List UInt8

namespace Encoding

/-- What stands at the start of some bytes. -/
inductive Reading (σ : Type) where
  /-- Some bytes that say some characters, and the state after them. -/
  | chars (length : Nat) (chars : Text) (after : σ)
  /-- A malformed sequence of `bad` bytes, the last of them `ahead` bytes before
  the end of the `length` bytes read. -/
  | malformed (length bad ahead : Nat)
deriving DecidableEq, Repr

/-- Reads at a byte and the bytes behind it, in a state. -/
abbrev Reader (σ : Type) := σ → UInt8 → Bytes → Reading σ

/-- What decoding comes to. -/
inductive Decoding where
  | complete (text : Text)
  /-- The text before a malformed sequence, the number of bytes read in all, the
  length of the sequence and the number of bytes read behind it. -/
  | malformed (text : Text) (consumed bad ahead : Nat)
deriving DecidableEq, Repr

/-- Reads on behind `consumed` bytes that gave the text `before`, last character
first. Every reading takes a byte at least, so `fuel` need not be more than the
number of bytes left. -/
def readFrom {σ : Type} (next : Reader σ) :
    Nat → σ → Bytes → (consumed : Nat) → (before : Text) → Decoding
  | _, _, [], _, before => .complete before.reverse
  | 0, _, _ :: _, _, before => .complete before.reverse
  | fuel + 1, s, b :: bytes, consumed, before =>
      match next s b bytes with
      | .chars length chars after =>
          readFrom next fuel after ((b :: bytes).drop length) (consumed + length)
            (chars.reverse ++ before)
      | .malformed length bad ahead =>
          .malformed before.reverse (consumed + length) bad ahead

/-- Reads bytes behind a byte order mark of `skipped` bytes. -/
def readAll {σ : Type} (next : Reader σ) (start : σ) (skipped : Nat) (bytes : Bytes) :
    Decoding :=
  readFrom next (bytes.drop skipped).length start (bytes.drop skipped) skipped []

/-- A reading of one character that takes `length` bytes. -/
def Reading.char {σ : Type} (length : Nat) (c : Char) (after : σ) : Reading σ :=
  .chars length [c] after

/-- A malformed sequence of `bad` bytes with `ahead` more bytes read behind it. -/
def Reading.bad {σ : Type} (bad ahead : Nat) : Reading σ := .malformed (bad + ahead) bad ahead

/-- A character that is one byte below 128. -/
def Reading.ascii {σ : Type} (b : UInt8) (after : σ) : Reading σ :=
  .char 1 (Char.ofNat b.toNat) after

end Encoding

end LexScan
