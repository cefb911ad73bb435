import LexScan.Encoding.Utf16
import LexScan.Proofs.Spelling

/-!
# UTF-16, unit by unit

A code point below U+10000 that is no surrogate is one unit; from there on it is a high
and a low surrogate with ten bits each. `Written` says this with nothing about how units
are read. A character is spelled in the one way there is, and the reader finds a character
exactly where one is so written.
-/

namespace LexScan.Encoding.Utf16

variable {order : ByteOrder}

/-- A code point and the bytes that it is written as. -/
inductive Written (order : ByteOrder) : Nat → Bytes → Prop where
  | single {n : Nat} {a b : UInt8} (hn : n = unit order a b)
      (hscalar : n < 0xD800 ∨ 0xE000 ≤ n) : Written order n [a, b]
  | pair {n : Nat} {a b c d : UInt8}
      (hhigh : 0xD800 ≤ unit order a b ∧ unit order a b < 0xDC00)
      (hlow : 0xDC00 ≤ unit order c d ∧ unit order c d < 0xE000)
      (hn : n = 0x10000 + (unit order a b - 0xD800) * 0x400 + (unit order c d - 0xDC00)) :
      Written order n [a, b, c, d]

/-! ## The encoder -/

/-- The units of a code point. -/
def units (n : Nat) : List Nat :=
  if n < 0x10000 then [n]
  else [0xD800 + (n - 0x10000) / 0x400, 0xDC00 + (n - 0x10000) % 0x400]

/-- The two bytes of a unit. -/
def unitBytes : ByteOrder → Nat → Bytes
  | .little, u => [UInt8.ofNat (u % 256), UInt8.ofNat (u / 256)]
  | .big, u => [UInt8.ofNat (u / 256), UInt8.ofNat (u % 256)]

def spell (order : ByteOrder) (c : Char) : Bytes := (units c.toNat).flatMap (unitBytes order)

theorem unit_lt (order : ByteOrder) (a b : UInt8) : unit order a b < 0x10000 := by
  have ha := a.toNat_lt
  have hb := b.toNat_lt
  cases order with
  | little =>
    simp only [unit]
    omega
  | big =>
    simp only [unit]
    omega

theorem exists_unitBytes (order : ByteOrder) {u : Nat} (h : u < 0x10000) :
    ∃ a b, unitBytes order u = [a, b] ∧ unit order a b = u := by
  cases order with
  | little =>
    refine ⟨_, _, rfl, ?_⟩
    simp only [unit, UInt8.toNat_ofNat']
    omega
  | big =>
    refine ⟨_, _, rfl, ?_⟩
    simp only [unit, UInt8.toNat_ofNat']
    omega

theorem unitBytes_unit (order : ByteOrder) (a b : UInt8) :
    unitBytes order (unit order a b) = [a, b] := by
  have ha := a.toNat_lt
  have hb := b.toNat_lt
  have hlow (x y : UInt8) : UInt8.ofNat ((x.toNat * 256 + y.toNat) % 256) = y := by
    rw [Nat.mul_add_mod_self_right, Nat.mod_eq_of_lt y.toNat_lt, UInt8.ofNat_toNat]
  have hhigh (x y : UInt8) : UInt8.ofNat ((x.toNat * 256 + y.toNat) / 256) = x := by
    have hx : (x.toNat * 256 + y.toNat) / 256 = x.toNat := by
      have := y.toNat_lt
      omega
    rw [hx, UInt8.ofNat_toNat]
  cases order with
  | little => simp only [unit, unitBytes, hlow, hhigh]
  | big => simp only [unit, unitBytes, hlow, hhigh]

/-- A character is written as it is spelled. -/
theorem written_spell (order : ByteOrder) (c : Char) :
    Written order c.toNat (spell order c) := by
  have hvalid : c.toNat < 0xD800 ∨ 0xDFFF < c.toNat ∧ c.toNat < 0x110000 := c.valid
  rw [spell, units]
  split
  · next hn =>
    obtain ⟨a, b, hbytes, hunit⟩ := exists_unitBytes order hn
    rw [List.flatMap_singleton, hbytes]
    exact .single hunit.symm (by omega)
  · next hn =>
    obtain ⟨a, b, hfirst, hhigh⟩ :=
      exists_unitBytes order (by omega : 0xD800 + (c.toNat - 0x10000) / 0x400 < 0x10000)
    obtain ⟨a', b', hsecond, hlow⟩ :=
      exists_unitBytes order (by omega : 0xDC00 + (c.toNat - 0x10000) % 0x400 < 0x10000)
    rw [List.flatMap_cons, List.flatMap_singleton, hfirst, hsecond]
    exact .pair (by omega) (by omega) (by omega)

theorem Written.isValidChar {n : Nat} {bytes : Bytes} (h : Written order n bytes) :
    n.isValidChar := by
  simp only [Nat.isValidChar]
  cases h with
  | @single a b hn hscalar =>
    have hlt := unit_lt order a b
    omega
  | pair hhigh hlow hn => omega

/-- There is no other way to write a code point than to spell it. -/
theorem Written.eq_spell {n : Nat} {bytes : Bytes} (h : Written order n bytes) :
    bytes = spell order (Char.ofNat n) := by
  rw [spell, units, toNat_ofNat h.isValidChar]
  cases h with
  | @single a b hn hscalar =>
    have hlt := unit_lt order a b
    rw [if_pos (by omega), List.flatMap_singleton, hn, unitBytes_unit]
  | @pair a b c d hhigh hlow hn =>
    have hfirst : 0xD800 + (n - 0x10000) / 0x400 = unit order a b := by omega
    have hsecond : 0xDC00 + (n - 0x10000) % 0x400 = unit order c d := by omega
    rw [if_neg (by omega), hfirst, hsecond, List.flatMap_cons, List.flatMap_singleton,
      unitBytes_unit, unitBytes_unit]
    rfl

/-! ## The reader -/

theorem isHigh_iff (u : Nat) : isHigh u = true ↔ 0xD800 ≤ u ∧ u < 0xDC00 := by
  simp [isHigh]

theorem isLow_iff (u : Nat) : isLow u = true ↔ 0xDC00 ≤ u ∧ u < 0xE000 := by
  simp [isLow]

/-- What is written is read. -/
theorem next_of_written {n : Nat} {b : UInt8} {more : Bytes}
    (h : Written order n (b :: more)) (rest : Bytes) :
    next order () b (more ++ rest) = .chars (b :: more).length [Char.ofNat n] () := by
  cases h with
  | @single _ b' hn hscalar =>
    have hhigh : ¬ isHigh (unit order b b') = true := by
      rw [isHigh_iff]
      omega
    have hlow : ¬ isLow (unit order b b') = true := by
      rw [isLow_iff]
      omega
    simp only [next, List.cons_append, if_neg hhigh, if_neg hlow, hn]
    rfl
  | @pair _ b' c d hhigh hlow hn =>
    have hhigh := (isHigh_iff _).mpr hhigh
    have hlow := (isLow_iff _).mpr hlow
    simp only [next, List.cons_append, if_pos hhigh, if_pos hlow, hn]
    rfl

/-- What is read was written. -/
theorem written_of_next {a : UInt8} {bytes : Bytes} {length : Nat} {chars : Text}
    (h : next order () a bytes = .chars length chars ()) :
    ∃ n more rest, bytes = more ++ rest ∧ Written order n (a :: more) ∧
      length = (a :: more).length ∧ chars = [Char.ofNat n] := by
  cases bytes with
  | nil => cases h
  | cons b bytes =>
    dsimp only [next] at h
    split at h
    · next hhigh =>
      split at h
      · cases h
      · cases h
      · next c d rest =>
        split at h
        · next hlow =>
          cases h
          exact ⟨_, [b, c, d], rest, rfl,
            .pair ((isHigh_iff _).mp hhigh) ((isLow_iff _).mp hlow) rfl, rfl, rfl⟩
        · cases h
    · next hhigh =>
      split at h
      · cases h
      · next hlow =>
        rw [isHigh_iff] at hhigh
        rw [isLow_iff] at hlow
        cases h
        exact ⟨_, [b], bytes, rfl, .single rfl (by omega), rfl, rfl⟩

/-- The reader finds the characters that are spelled. -/
theorem reads_spell (order : ByteOrder) : Reads (next order) (spell order) :=
  .of_written (written_spell order) (fun _ _ h => h.eq_spell) (fun _ h => nomatch h)
    (fun _ _ _ rest h => next_of_written h rest) (fun _ _ _ _ h => written_of_next h)

/-! ## Malformed bytes -/

/-- Half a unit is malformed, and so are a surrogate alone and both of them together. -/
theorem countsMalformed_next (order : ByteOrder) : CountsMalformed (next order) := by
  intro a bytes length bad ahead h
  cases bytes with
  | nil =>
    obtain ⟨rfl, rfl, rfl⟩ := Reading.malformed.inj h
    simp
  | cons b bytes =>
    dsimp only [next] at h
    split at h
    · split at h
      · obtain ⟨rfl, rfl, rfl⟩ := Reading.malformed.inj h
        simp
      · obtain ⟨rfl, rfl, rfl⟩ := Reading.malformed.inj h
        simp
      · next c d rest =>
        split at h
        · cases h
        · obtain ⟨rfl, rfl, rfl⟩ := Reading.malformed.inj h
          simp
    · split at h
      · obtain ⟨rfl, rfl, rfl⟩ := Reading.malformed.inj h
        simp
      · cases h

end LexScan.Encoding.Utf16
