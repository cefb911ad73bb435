import LexScan.Encoding.Utf8
import LexScan.Proofs.Spelling

/-!
# UTF-8, byte by byte

How a code point is written in UTF-8: a lead byte that tells the length, and continuation
bytes with six bits each, where the code point is too great for a shorter form, is no
surrogate and does not exceed U+10FFFF. `Written` says this with nothing about how bytes
are read. The standard encoder writes the code point of a character in the one way there
is, and the reader finds a character exactly where one is so written.
-/

namespace LexScan.Encoding.Utf8

def IsTail (b : UInt8) : Prop := 0x80 ≤ b.toNat ∧ b.toNat < 0xC0

/-- A code point and the bytes that it is written as. -/
inductive Written : Nat → Bytes → Prop where
  | one {n : Nat} {a : UInt8} (ha : a.toNat < 0x80) (hn : n = a.toNat) : Written n [a]
  | two {n : Nat} {a b : UInt8} (ha : 0xC0 ≤ a.toNat ∧ a.toNat < 0xE0) (hb : IsTail b)
      (hn : n = (a.toNat - 0xC0) * 64 + (b.toNat - 0x80)) (hshortest : 0x80 ≤ n) :
      Written n [a, b]
  | three {n : Nat} {a b c : UInt8} (ha : 0xE0 ≤ a.toNat ∧ a.toNat < 0xF0) (hb : IsTail b)
      (hc : IsTail c)
      (hn : n = ((a.toNat - 0xE0) * 64 + (b.toNat - 0x80)) * 64 + (c.toNat - 0x80))
      (hshortest : 0x800 ≤ n) (hscalar : n < 0xD800 ∨ 0xE000 ≤ n) : Written n [a, b, c]
  | four {n : Nat} {a b c d : UInt8} (ha : 0xF0 ≤ a.toNat ∧ a.toNat < 0xF8) (hb : IsTail b)
      (hc : IsTail c) (hd : IsTail d)
      (hn : n = (((a.toNat - 0xF0) * 64 + (b.toNat - 0x80)) * 64 + (c.toNat - 0x80)) * 64
        + (d.toNat - 0x80))
      (hshortest : 0x10000 ≤ n) (hlast : n < 0x110000) : Written n [a, b, c, d]

/-! ## The encoder -/

theorem isTail_ofNat (n : Nat) : IsTail (UInt8.ofNat (n % 64 + 128)) := by
  simp only [IsTail, UInt8.toNat_ofNat']
  omega

/-- A character is written as its encoder has it. -/
theorem written_utf8EncodeChar (c : Char) : Written c.toNat (String.utf8EncodeChar c) := by
  have hvalid : c.toNat < 0xD800 ∨ 0xDFFF < c.toNat ∧ c.toNat < 0x110000 := c.valid
  have hval : c.val.toNat = c.toNat := rfl
  simp only [String.utf8EncodeChar, hval]
  split
  · refine .one ?_ ?_
    all_goals
      simp only [UInt8.toNat_ofNat']
      omega
  split
  · refine .two ?_ (isTail_ofNat _) ?_ (by omega)
    all_goals
      simp only [UInt8.toNat_ofNat']
      omega
  split
  · refine .three ?_ (isTail_ofNat _) (isTail_ofNat _) ?_ (by omega) (by omega)
    all_goals
      simp only [UInt8.toNat_ofNat']
      omega
  · refine .four ?_ (isTail_ofNat _) (isTail_ofNat _) (isTail_ofNat _) ?_ (by omega) (by omega)
    all_goals
      simp only [UInt8.toNat_ofNat']
      omega

theorem Written.isValidChar {n : Nat} {bytes : Bytes} (h : Written n bytes) :
    n.isValidChar := by
  simp only [Nat.isValidChar]
  cases h with
  | one ha hn => omega
  | two ha hb hn _ =>
    have := hb.2
    omega
  | three ha hb hc hn _ hscalar =>
    have := hb.2
    have := hc.2
    omega
  | four _ _ _ _ _ hshortest hlast => omega

/-- There is no other way to write a code point than the encoder's. -/
theorem Written.eq_utf8EncodeChar {n : Nat} {bytes : Bytes} (h : Written n bytes) :
    bytes = String.utf8EncodeChar (Char.ofNat n) := by
  have hval : (Char.ofNat n).val.toNat = n := toNat_ofNat h.isValidChar
  simp only [String.utf8EncodeChar, hval]
  cases h with
  | one ha hn => rw [if_pos (by omega), hn, UInt8.ofNat_toNat]
  | @two a b ha hb hn _ =>
    obtain ⟨_, hb⟩ := hb
    have hlead : n / 64 % 32 + 192 = a.toNat := by omega
    have htail : n % 64 + 128 = b.toNat := by omega
    rw [if_neg (by omega), if_pos (by omega), hlead, htail, UInt8.ofNat_toNat,
      UInt8.ofNat_toNat]
  | @three a b c ha hb hc hn _ hscalar =>
    obtain ⟨_, hb⟩ := hb
    obtain ⟨_, hc⟩ := hc
    have hlead : n / 4096 % 16 + 224 = a.toNat := by omega
    have hmiddle : n / 64 % 64 + 128 = b.toNat := by omega
    have htail : n % 64 + 128 = c.toNat := by omega
    rw [if_neg (by omega), if_neg (by omega), if_pos (by omega), hlead, hmiddle, htail,
      UInt8.ofNat_toNat, UInt8.ofNat_toNat, UInt8.ofNat_toNat]
  | @four a b c d ha hb hc hd hn _ _ =>
    obtain ⟨_, hb⟩ := hb
    obtain ⟨_, hc⟩ := hc
    obtain ⟨_, hd⟩ := hd
    have hlead : n / 262144 % 8 + 240 = a.toNat := by omega
    have hupper : n / 4096 % 64 + 128 = b.toNat := by omega
    have hlower : n / 64 % 64 + 128 = c.toNat := by omega
    have htail : n % 64 + 128 = d.toNat := by omega
    rw [if_neg (by omega), if_neg (by omega), if_neg (by omega), hlead, hupper, hlower, htail,
      UInt8.ofNat_toNat, UInt8.ofNat_toNat, UInt8.ofNat_toNat, UInt8.ofNat_toNat]

/-! ## Lead bytes

What a lead byte says of the byte behind it keeps out the code points that have a shorter
form, surrogates, and what lies above U+10FFFF. -/

section

variable {b : UInt8}

theorem lead?_one (h : b.toNat < 0x80) : lead? b = some ⟨0, 0x80, 0xBF, b.toNat⟩ :=
  if_pos (UInt8.lt_iff_toNat_lt.mpr h)

theorem lead?_none (h : 0x80 ≤ b.toNat ∧ b.toNat < 0xC2 ∨ 0xF5 ≤ b.toNat) : lead? b = none := by
  simp only [lead?, UInt8.lt_iff_toNat_lt, ← UInt8.toNat_inj, UInt8.reduceToNat]
  rw [if_neg (by omega)]
  split
  · rfl
  · rw [if_neg (by omega), if_neg (by omega), if_neg (by omega), if_neg (by omega),
      if_neg (by omega), if_neg (by omega), if_neg (by omega)]

theorem isTail_iff : (0x80 : UInt8) ≤ b ∧ b ≤ 0xBF ↔ IsTail b := by
  simp only [IsTail, UInt8.le_iff_toNat_le, UInt8.reduceToNat]
  omega

theorem lead?_two (h : 0xC2 ≤ b.toNat ∧ b.toNat < 0xE0) :
    lead? b = some ⟨1, 0x80, 0xBF, b.toNat - 0xC0⟩ := by
  simp only [lead?, UInt8.lt_iff_toNat_lt, UInt8.reduceToNat]
  rw [if_neg (by omega), if_neg (by omega), if_pos h.2]

theorem lead?_three (h : 0xE0 ≤ b.toNat ∧ b.toNat < 0xF0) :
    ∃ lo hi, lead? b = some ⟨2, lo, hi, b.toNat - 0xE0⟩ ∧
      ∀ x : UInt8, lo ≤ x ∧ x ≤ hi ↔ IsTail x ∧
        0x20 ≤ (b.toNat - 0xE0) * 64 + (x.toNat - 0x80) ∧
        ((b.toNat - 0xE0) * 64 + (x.toNat - 0x80) < 0x360 ∨
          0x380 ≤ (b.toNat - 0xE0) * 64 + (x.toNat - 0x80)) := by
  simp only [lead?, IsTail, UInt8.lt_iff_toNat_lt, UInt8.le_iff_toNat_le, ← UInt8.toNat_inj,
    UInt8.reduceToNat]
  rw [if_neg (by omega), if_neg (by omega), if_neg (by omega)]
  split
  · next hb =>
    rw [hb]
    refine ⟨0xA0, 0xBF, rfl, fun x => ?_⟩
    simp only [UInt8.reduceToNat]
    omega
  split
  · next hb =>
    rw [hb]
    refine ⟨0x80, 0x9F, rfl, fun x => ?_⟩
    simp only [UInt8.reduceToNat]
    omega
  · rw [if_pos h.2]
    refine ⟨0x80, 0xBF, rfl, fun x => ?_⟩
    simp only [UInt8.reduceToNat]
    omega

theorem lead?_four (h : 0xF0 ≤ b.toNat ∧ b.toNat < 0xF5) :
    ∃ lo hi, lead? b = some ⟨3, lo, hi, b.toNat - 0xF0⟩ ∧
      ∀ x : UInt8, lo ≤ x ∧ x ≤ hi ↔ IsTail x ∧
        0x10 ≤ (b.toNat - 0xF0) * 64 + (x.toNat - 0x80) ∧
        (b.toNat - 0xF0) * 64 + (x.toNat - 0x80) < 0x110 := by
  simp only [lead?, IsTail, UInt8.lt_iff_toNat_lt, UInt8.le_iff_toNat_le, ← UInt8.toNat_inj,
    UInt8.reduceToNat]
  rw [if_neg (by omega), if_neg (by omega), if_neg (by omega), if_neg (by omega),
    if_neg (by omega), if_neg (by omega)]
  split
  · next hb =>
    rw [hb]
    refine ⟨0x90, 0xBF, rfl, fun x => ?_⟩
    simp only [UInt8.reduceToNat]
    omega
  split
  · refine ⟨0x80, 0xBF, rfl, fun x => ?_⟩
    simp only [UInt8.reduceToNat]
    omega
  · have hb : b.toNat = 0xF4 := by omega
    rw [if_pos hb, hb]
    refine ⟨0x80, 0x8F, rfl, fun x => ?_⟩
    simp only [UInt8.reduceToNat]
    omega

end

/-! ## The reader -/

theorem continuation_succ_eq_ok_iff {count : Nat} {lo hi : UInt8} {bits got n : Nat}
    {bytes : Bytes} : continuation (count + 1) lo hi bits got bytes = .ok n ↔
      ∃ x rest, bytes = x :: rest ∧ (lo ≤ x ∧ x ≤ hi) ∧
        continuation count 0x80 0xBF (bits * 64 + (x.toNat - 0x80)) (got + 1) rest = .ok n := by
  cases bytes with
  | nil => simp [continuation]
  | cons x rest =>
    rw [continuation]
    constructor
    · intro h
      split at h
      · next hx => exact ⟨x, rest, rfl, hx, h⟩
      · cases h
    · rintro ⟨y, more, heq, hy, h⟩
      obtain ⟨rfl, rfl⟩ := List.cons.inj heq
      rw [if_pos hy]
      exact h

theorem continuation_zero_eq_ok_iff {lo hi : UInt8} {bits got n : Nat} {bytes : Bytes} :
    continuation 0 lo hi bits got bytes = .ok n ↔ bits = n := by
  simp [continuation]

theorem next_eq_chars_iff {b : UInt8} {bytes : Bytes} {length : Nat} {chars : Text} :
    next () b bytes = .chars length chars () ↔
      ∃ lead n, lead? b = some lead ∧
        continuation lead.count lead.lo lead.hi lead.bits 0 bytes = .ok n ∧
        length = 1 + lead.count ∧ chars = [Char.ofNat n] := by
  rw [next]
  cases hlead : lead? b with
  | none => simp [Reading.bad]
  | some lead =>
    cases hn : continuation lead.count lead.lo lead.hi lead.bits 0 bytes with
    | error got => simp [Reading.bad, hn]
    | ok n => simp [Reading.char, hn, eq_comm]

/-- What is written is read. -/
theorem next_of_written {n : Nat} {b : UInt8} {more : Bytes} (h : Written n (b :: more))
    (rest : Bytes) :
    next () b (more ++ rest) = .chars (more.length + 1) [Char.ofNat n] () := by
  rw [next_eq_chars_iff]
  cases h with
  | one ha hn =>
    exact ⟨_, n, lead?_one ha, continuation_zero_eq_ok_iff.mpr hn.symm, rfl, rfl⟩
  | @two _ x ha hx hn hshortest =>
    have hlead := lead?_two (b := b) (by have := hx.2; omega)
    refine ⟨_, n, hlead, ?_, rfl, rfl⟩
    rw [continuation_succ_eq_ok_iff]
    exact ⟨x, rest, rfl, isTail_iff.mpr hx, continuation_zero_eq_ok_iff.mpr hn.symm⟩
  | @three _ x y ha hx hy hn hshortest hscalar =>
    obtain ⟨lo, hi, hlead, hrange⟩ := lead?_three ha
    refine ⟨_, n, hlead, ?_, rfl, rfl⟩
    rw [continuation_succ_eq_ok_iff]
    refine ⟨x, y :: rest, rfl, (hrange x).mpr ⟨hx, ?_⟩, ?_⟩
    · have := hy.2
      omega
    rw [continuation_succ_eq_ok_iff]
    exact ⟨y, rest, rfl, isTail_iff.mpr hy, continuation_zero_eq_ok_iff.mpr hn.symm⟩
  | @four _ x y z ha hx hy hz hn hshortest hlast =>
    have hbounds := And.intro hy.2 hz.2
    obtain ⟨lo, hi, hlead, hrange⟩ := lead?_four (b := b) (by omega)
    refine ⟨_, n, hlead, ?_, rfl, rfl⟩
    rw [continuation_succ_eq_ok_iff]
    refine ⟨x, y :: z :: rest, rfl, (hrange x).mpr ⟨hx, ?_⟩, ?_⟩
    · omega
    rw [continuation_succ_eq_ok_iff]
    refine ⟨y, z :: rest, rfl, isTail_iff.mpr hy, ?_⟩
    rw [continuation_succ_eq_ok_iff]
    exact ⟨z, rest, rfl, isTail_iff.mpr hz, continuation_zero_eq_ok_iff.mpr hn.symm⟩

/-- What is read was written. -/
theorem written_of_next {b : UInt8} {bytes : Bytes} {length : Nat} {chars : Text}
    (h : next () b bytes = .chars length chars ()) :
    ∃ n more rest, bytes = more ++ rest ∧ Written n (b :: more) ∧ length = more.length + 1 ∧
      chars = [Char.ofNat n] := by
  obtain ⟨lead, n, hlead, hn, rfl, rfl⟩ := next_eq_chars_iff.mp h
  have hlt := b.toNat_lt
  rcases (by omega : b.toNat < 0x80 ∨ (0x80 ≤ b.toNat ∧ b.toNat < 0xC2 ∨ 0xF5 ≤ b.toNat) ∨
    (0xC2 ≤ b.toNat ∧ b.toNat < 0xE0) ∨ (0xE0 ≤ b.toNat ∧ b.toNat < 0xF0) ∨
    (0xF0 ≤ b.toNat ∧ b.toNat < 0xF5)) with hb | hb | hb | hb | hb
  · rw [lead?_one hb] at hlead
    obtain rfl := Option.some.inj hlead
    have hbits := continuation_zero_eq_ok_iff.mp hn
    exact ⟨n, [], bytes, rfl, .one hb hbits.symm, rfl, rfl⟩
  · rw [lead?_none hb] at hlead
    cases hlead
  · rw [lead?_two hb] at hlead
    obtain rfl := Option.some.inj hlead
    dsimp only at hn
    obtain ⟨x, rest, rfl, hx, hn⟩ := continuation_succ_eq_ok_iff.mp hn
    have hbits := continuation_zero_eq_ok_iff.mp hn
    exact ⟨n, [x], rest, rfl, .two (by omega) (isTail_iff.mp hx) hbits.symm (by omega), rfl, rfl⟩
  · obtain ⟨lo, hi, hfound, hrange⟩ := lead?_three hb
    rw [hfound] at hlead
    obtain rfl := Option.some.inj hlead
    dsimp only at hn
    obtain ⟨x, rest, rfl, hx, hn⟩ := continuation_succ_eq_ok_iff.mp hn
    obtain ⟨y, rest, rfl, hy, hn⟩ := continuation_succ_eq_ok_iff.mp hn
    have hbits := continuation_zero_eq_ok_iff.mp hn
    obtain ⟨hx, hfirst⟩ := (hrange x).mp hx
    have hy := isTail_iff.mp hy
    have hlast := hy.2
    exact ⟨n, [x, y], rest, rfl, .three hb hx hy hbits.symm (by omega) (by omega), rfl, rfl⟩
  · obtain ⟨lo, hi, hfound, hrange⟩ := lead?_four hb
    rw [hfound] at hlead
    obtain rfl := Option.some.inj hlead
    dsimp only at hn
    obtain ⟨x, rest, rfl, hx, hn⟩ := continuation_succ_eq_ok_iff.mp hn
    obtain ⟨y, rest, rfl, hy, hn⟩ := continuation_succ_eq_ok_iff.mp hn
    obtain ⟨z, rest, rfl, hz, hn⟩ := continuation_succ_eq_ok_iff.mp hn
    have hbits := continuation_zero_eq_ok_iff.mp hn
    obtain ⟨hx, hfirst⟩ := (hrange x).mp hx
    have hy := isTail_iff.mp hy
    have hz := isTail_iff.mp hz
    have hlast := And.intro hy.2 hz.2
    exact ⟨n, [x, y, z], rest, rfl,
      .four (by omega) hx hy hz hbits.symm (by omega) (by omega), rfl, rfl⟩

/-- The reader finds the characters that the encoder writes. -/
theorem reads_utf8EncodeChar : Reads next String.utf8EncodeChar :=
  .of_written written_utf8EncodeChar (fun _ _ h => h.eq_utf8EncodeChar)
    (fun _ h => nomatch h) (fun _ _ _ rest h => next_of_written h rest)
    (fun _ _ _ _ h => written_of_next h)

/-! ## Malformed bytes

The reader stops at the first byte that fits no character with the bytes before it. What it
has read until then a character can begin with: the least bytes that fit complete it. -/

/-- Of the bytes behind a lead byte the first `k` fit, and fewer than it announces. -/
inductive Breaks : Nat → UInt8 → UInt8 → Bytes → Nat → Prop where
  | ends {count : Nat} {lo hi : UInt8} : Breaks (count + 1) lo hi [] 0
  | unfit {count : Nat} {lo hi b : UInt8} {bytes : Bytes} (hb : ¬ (lo ≤ b ∧ b ≤ hi)) :
      Breaks (count + 1) lo hi (b :: bytes) 0
  | fits {count k : Nat} {lo hi b : UInt8} {bytes : Bytes} (hb : lo ≤ b ∧ b ≤ hi)
      (hrest : Breaks count 0x80 0xBF bytes k) : Breaks (count + 1) lo hi (b :: bytes) (k + 1)

section

variable {count k : Nat} {lo hi : UInt8} {bytes : Bytes}

theorem continuation_eq_error_iff {bits got stop : Nat} :
    continuation count lo hi bits got bytes = .error stop ↔
      ∃ k, Breaks count lo hi bytes k ∧ stop = got + k := by
  induction count generalizing lo hi bits got bytes with
  | zero =>
    constructor
    · intro h
      cases h
    · rintro ⟨k, hk, _⟩
      cases hk
  | succ count ih =>
    cases bytes with
    | nil =>
      constructor
      · intro h
        exact ⟨0, .ends, (Except.error.inj h).symm⟩
      · rintro ⟨k, hk, rfl⟩
        cases hk
        rfl
    | cons b bytes =>
      rw [continuation]
      split
      · next hb =>
        rw [ih]
        constructor
        · rintro ⟨k, hk, rfl⟩
          exact ⟨k + 1, .fits hb hk, by omega⟩
        · rintro ⟨k, hk, rfl⟩
          cases hk with
          | unfit hunfit => exact absurd hb hunfit
          | @fits _ k _ _ _ _ _ hrest => exact ⟨k, hrest, by omega⟩
      · next hb =>
        constructor
        · intro h
          exact ⟨0, .unfit hb, (Except.error.inj h).symm⟩
        · rintro ⟨k, hk, rfl⟩
          cases hk with
          | unfit => rfl
          | fits hfits => exact absurd hfits hb

theorem Breaks.lt_count (h : Breaks count lo hi bytes k) : k < count := by
  induction h with
  | ends => exact Nat.succ_pos _
  | unfit => exact Nat.succ_pos _
  | fits _ _ ih => exact Nat.succ_lt_succ ih

theorem Breaks.le_length (h : Breaks count lo hi bytes k) : k ≤ bytes.length := by
  induction h with
  | ends => exact Nat.zero_le _
  | unfit => exact Nat.zero_le _
  | fits _ _ ih => exact Nat.succ_le_succ ih

/-- The bytes up to the one that does not fit decide where it is. -/
theorem Breaks.of_take_isPrefix (h : Breaks count lo hi bytes k) (hk : k < bytes.length)
    {more : Bytes} (hmore : bytes.take (k + 1) <+: more) : Breaks count lo hi more k := by
  induction h generalizing more with
  | ends => exact absurd hk (Nat.lt_irrefl 0)
  | unfit hb =>
    obtain ⟨rest, rfl⟩ := hmore
    exact .unfit hb
  | fits hb _ ih =>
    obtain ⟨rest, rfl⟩ := hmore
    exact .fits hb (ih (Nat.lt_of_succ_lt_succ hk) (List.prefix_append _ _))

/-- The least bytes that fit continue any lead byte. -/
theorem exists_continuation (hrange : lo ≤ hi) (bits got : Nat) :
    ∃ more n, continuation count lo hi bits got more = .ok n := by
  induction count generalizing lo hi bits got with
  | zero => exact ⟨[], bits, rfl⟩
  | succ count ih =>
    have htail : (0x80 : UInt8) ≤ 0xBF := by decide
    obtain ⟨more, n, hmore⟩ := ih htail (bits * 64 + (lo.toNat - 0x80)) (got + 1)
    refine ⟨lo :: more, n, continuation_succ_eq_ok_iff.mpr ?_⟩
    exact ⟨lo, more, rfl, ⟨UInt8.le_refl lo, hrange⟩, hmore⟩

/-- The bytes that fit can be continued. -/
theorem Breaks.exists_continuation (h : Breaks count lo hi bytes k) (hrange : lo ≤ hi)
    (bits got : Nat) :
    ∃ more n, continuation count lo hi bits got (bytes.take k ++ more) = .ok n := by
  induction h generalizing bits got with
  | ends => exact Utf8.exists_continuation hrange bits got
  | unfit => exact Utf8.exists_continuation hrange bits got
  | @fits _ _ lo hi b bytes hb _ ih =>
    obtain ⟨more, n, hmore⟩ := ih (by decide) (bits * 64 + (b.toNat - 0x80)) (got + 1)
    refine ⟨more, n, continuation_succ_eq_ok_iff.mpr ?_⟩
    exact ⟨b, _, rfl, hb, hmore⟩

end

theorem lead?_bounds {b : UInt8} {lead : Lead} (h : lead? b = some lead) :
    lead.count ≤ 3 ∧ lead.lo ≤ lead.hi := by
  simp only [lead?] at h
  repeat' split at h
  all_goals cases h
  all_goals
    refine ⟨?_, ?_⟩
    all_goals
      dsimp only
      decide

theorem next_of_lead?_none {b : UInt8} (h : lead? b = none) (bytes : Bytes) :
    next () b bytes = .malformed 1 1 0 := by
  rw [next, h]
  rfl

theorem next_of_breaks {b : UInt8} {bytes : Bytes} {lead : Lead} {k : Nat}
    (hlead : lead? b = some lead) (h : Breaks lead.count lead.lo lead.hi bytes k) :
    next () b bytes = .malformed (1 + k) (1 + k) 0 := by
  have herror : continuation lead.count lead.lo lead.hi lead.bits 0 bytes = .error k :=
    continuation_eq_error_iff.mpr ⟨k, h, (Nat.zero_add k).symm⟩
  rw [next, hlead]
  simp only [herror]
  rfl

/-- Bytes are malformed for their lead byte or for those behind it. -/
theorem cases_malformed {b : UInt8} {bytes : Bytes} {length bad ahead : Nat}
    (h : next () b bytes = .malformed length bad ahead) :
    (lead? b = none ∧ length = 1 ∧ bad = 1 ∧ ahead = 0) ∨
      ∃ lead k, lead? b = some lead ∧ Breaks lead.count lead.lo lead.hi bytes k ∧
        length = 1 + k ∧ bad = 1 + k ∧ ahead = 0 := by
  cases hlead : lead? b with
  | none =>
    rw [next_of_lead?_none hlead] at h
    obtain ⟨rfl, rfl, rfl⟩ := Reading.malformed.inj h
    exact .inl ⟨rfl, rfl, rfl, rfl⟩
  | some lead =>
    cases hcontinued : continuation lead.count lead.lo lead.hi lead.bits 0 bytes with
    | ok n =>
      rw [next, hlead] at h
      simp only [hcontinued] at h
      cases h
    | error stop =>
      obtain ⟨k, hk, _⟩ := continuation_eq_error_iff.mp hcontinued
      rw [next_of_breaks hlead hk] at h
      obtain ⟨rfl, rfl, rfl⟩ := Reading.malformed.inj h
      exact .inr ⟨lead, k, rfl, hk, rfl, rfl, rfl⟩

theorem countsMalformed_next : CountsMalformed next := by
  intro b bytes length bad ahead h
  rcases cases_malformed h with ⟨_, rfl, rfl, rfl⟩ | ⟨lead, k, _, hk, rfl, rfl, rfl⟩
  · simp
  · have hle := hk.le_length
    rw [List.length_cons]
    omega

theorem begins_of_breaks {b : UInt8} {bytes : Bytes} {lead : Lead} {k : Nat}
    (hlead : lead? b = some lead) (h : Breaks lead.count lead.lo lead.hi bytes k) :
    Begins String.utf8EncodeChar (b :: bytes.take k) := by
  obtain ⟨more, n, hmore⟩ := h.exists_continuation (lead?_bounds hlead).2 lead.bits 0
  have hnext : next () b (bytes.take k ++ more) = .chars (1 + lead.count) [Char.ofNat n] () :=
    next_eq_chars_iff.mpr ⟨lead, n, hlead, hmore, rfl, rfl⟩
  obtain ⟨c, rest, hbytes, hlength, _⟩ :=
    (reads_utf8EncodeChar.chars_iff b _ _ _).mp hnext
  have hpiece : b :: bytes.take k <+: b :: (bytes.take k ++ more) := ⟨more, rfl⟩
  refine ⟨c, List.prefix_of_prefix_length_le hpiece ⟨rest, hbytes.symm⟩ ?_⟩
  have hlt := h.lt_count
  rw [← hlength, List.length_cons, List.length_take]
  omega

/-- A longer piece would hold the byte that does not fit. -/
theorem length_le_of_begins {b : UInt8} {bytes q : Bytes} {lead : Lead} {k : Nat}
    (hlead : lead? b = some lead) (h : Breaks lead.count lead.lo lead.hi bytes k)
    (hq : q <+: b :: bytes) (hbegins : Begins String.utf8EncodeChar q) : q.length ≤ 1 + k := by
  obtain ⟨c, hc⟩ := hbegins
  rcases Nat.lt_or_ge (1 + k) q.length with hlong | hshort
  · exfalso
    have hlength := hq.length_le
    rw [List.length_cons] at hlength
    have htake : b :: bytes.take (k + 1) <+: String.utf8EncodeChar c := by
      have hpiece : (b :: bytes).take (k + 2) <+: q := by
        apply List.prefix_of_prefix_length_le (List.take_prefix _ _) hq
        rw [List.length_take]
        omega
      exact hpiece.trans hc
    obtain ⟨rest, hrest⟩ := htake
    have hspell : String.utf8EncodeChar c = b :: (bytes.take (k + 1) ++ rest) := hrest.symm
    have hread := reads_utf8EncodeChar.next_of_spell_eq hspell
    have hbreaks := h.of_take_isPrefix (by omega) (List.prefix_append (bytes.take (k + 1)) rest)
    rw [next_of_breaks hlead hbreaks] at hread
    cases hread
  · exact hshort

theorem eq_nil_of_begins {b : UInt8} {bytes q : Bytes} (hlead : lead? b = none)
    (hq : q <+: b :: bytes) (hbegins : Begins String.utf8EncodeChar q) : q = [] := by
  cases q with
  | nil => rfl
  | cons a q =>
    obtain ⟨rfl, _⟩ := List.cons_prefix_cons.mp hq
    obtain ⟨c, rest, hrest⟩ := hbegins
    have hread := reads_utf8EncodeChar.next_of_spell_eq hrest.symm
    rw [next_of_lead?_none hlead] at hread
    cases hread

/-- Malformed bytes are the longest ones that a character can begin with, or one byte. -/
theorem longestStart_of_malformed {b : UInt8} {bytes : Bytes} {length bad ahead : Nat}
    (h : next () b bytes = .malformed length bad ahead) :
    bad ≤ 3 ∧ LongestStart String.utf8EncodeChar (b :: bytes) ((b :: bytes).take bad) := by
  rcases cases_malformed h with ⟨hlead, _, rfl, _⟩ | ⟨lead, k, hlead, hk, _, rfl, _⟩
  · exact ⟨by omega, .byte ⟨bytes, rfl⟩ fun q hq => eq_nil_of_begins hlead hq⟩
  · have hcount := (lead?_bounds hlead).1
    have hlt := hk.lt_count
    have hle := hk.le_length
    have htake : (b :: bytes).take (1 + k) = b :: bytes.take k := by
      rw [Nat.add_comm, List.take_succ_cons]
    refine ⟨by omega, .start ?_ (List.take_prefix _ _) ?_ ?_⟩
    · rw [htake]
      exact List.cons_ne_nil _ _
    · rw [htake]
      exact begins_of_breaks hlead hk
    · intro q hq hbegins
      have hshort := length_le_of_begins hlead hk hq hbegins
      rw [List.length_take, List.length_cons]
      omega

end LexScan.Encoding.Utf8
