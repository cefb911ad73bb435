import LexScan.Encoding.Reading

/-!
# UTF-16

Characters are one unit of two bytes or a pair of surrogate units, in either
byte order. A surrogate without its partner is malformed; so is half a unit at
the end, together with the high surrogate before it if there is one.
-/

namespace LexScan.Encoding

/-- Which byte of a unit comes first. -/
inductive ByteOrder where
  | little
  | big
deriving DecidableEq, Repr

namespace Utf16

def unit : ByteOrder → UInt8 → UInt8 → Nat
  | .little, a, b => b.toNat * 256 + a.toNat
  | .big, a, b => a.toNat * 256 + b.toNat

def isHigh (u : Nat) : Bool := 0xD800 ≤ u && u < 0xDC00

def isLow (u : Nat) : Bool := 0xDC00 ≤ u && u < 0xE000

/-- The code point of a pair of surrogates. -/
def pair (high low : Nat) : Nat := 0x10000 + (high - 0xD800) * 0x400 + (low - 0xDC00)

def next (order : ByteOrder) : Reader Unit := fun _ a bytes =>
  match bytes with
  | [] => .bad 1 0
  | b :: bytes =>
      let u := unit order a b
      if isHigh u then
        match bytes with
        | [] => .bad 2 0
        | [_] => .bad 3 0
        | c :: d :: _ =>
            let v := unit order c d
            if isLow v then .char 4 (Char.ofNat (pair u v)) () else .bad 2 2
      else if isLow u then .bad 2 0
      else .char 2 (Char.ofNat u) ()

/-- The byte order mark. -/
def mark : ByteOrder → Bytes
  | .little => [0xFF, 0xFE]
  | .big => [0xFE, 0xFF]

end Utf16

end LexScan.Encoding
