import LexScan.Encoding.Reading

/-!
# Readers of spelled texts

A spelling writes each character as some bytes. A reader reads it if it finds a character
exactly where bytes start with its spelling. Decoding with such a reader is then the
inverse of spelling: it comes to an end with a text exactly on the spelled texts, and
gives the one that was spelled.
-/

namespace LexScan.Encoding

/-- A reader that finds a character exactly where its spelling stands. -/
structure Reads (next : Reader Unit) (spell : Char → Bytes) : Prop where
  ne_nil : ∀ c, spell c ≠ []
  chars_iff : ∀ b bytes length chars, next () b bytes = .chars length chars () ↔
    ∃ c rest, b :: bytes = spell c ++ rest ∧ length = (spell c).length ∧ chars = [c]

/-- Bytes that the spelling of some character begins with. -/
def Begins (spell : Char → Bytes) (piece : Bytes) : Prop := ∃ c, piece <+: spell c

/-- The longest initial piece of some bytes that a character can begin with, or their first
byte where there is none. -/
inductive LongestStart (spell : Char → Bytes) (bytes : Bytes) : Bytes → Prop where
  | start {piece : Bytes} (hne : piece ≠ []) (hstart : piece <+: bytes)
      (hbegins : Begins spell piece)
      (hlongest : ∀ q, q <+: bytes → Begins spell q → q.length ≤ piece.length) :
      LongestStart spell bytes piece
  | byte {b : UInt8} (hstart : [b] <+: bytes)
      (hnone : ∀ q, q <+: bytes → Begins spell q → q = []) : LongestStart spell bytes [b]

/-- A reader that counts right where bytes are malformed: they are some, and with those read
behind them they are all that was read, which is no more than there is. -/
def CountsMalformed (next : Reader Unit) : Prop :=
  ∀ b bytes length bad ahead, next () b bytes = .malformed length bad ahead →
    0 < bad ∧ length = bad + ahead ∧ length ≤ (b :: bytes).length

theorem toNat_ofNat {n : Nat} (h : n.isValidChar) : (Char.ofNat n).toNat = n := by
  rw [Char.ofNat, dif_pos h]
  rfl

namespace Reads

variable {next : Reader Unit} {spell : Char → Bytes}

/-- A grammar that says which bytes a code point is written as links a reader with a
spelling: the spelling follows it and is its only way to write a character, and the reader
takes what is written and nothing else. -/
theorem of_written {Written : Nat → Bytes → Prop} (hspell : ∀ c, Written c.toNat (spell c))
    (honly : ∀ n bytes, Written n bytes → bytes = spell (Char.ofNat n))
    (hnil : ∀ n, ¬ Written n [])
    (hnext : ∀ n b more rest, Written n (b :: more) →
      next () b (more ++ rest) = .chars (b :: more).length [Char.ofNat n] ())
    (hread : ∀ b bytes length chars, next () b bytes = .chars length chars () →
      ∃ n more rest, bytes = more ++ rest ∧ Written n (b :: more) ∧
        length = (b :: more).length ∧ chars = [Char.ofNat n]) : Reads next spell where
  ne_nil := by
    intro c hc
    apply hnil c.toNat
    rw [← hc]
    exact hspell c
  chars_iff := by
    intro b bytes length chars
    constructor
    · intro h
      obtain ⟨n, more, rest, rfl, hwritten, hlength, hchars⟩ := hread b bytes length chars h
      rw [honly n _ hwritten] at hlength
      refine ⟨Char.ofNat n, rest, ?_, hlength, hchars⟩
      rw [← honly n _ hwritten, List.cons_append]
    · rintro ⟨c, rest, hbytes, rfl, rfl⟩
      have hc := hspell c
      cases hs : spell c with
      | nil =>
        rw [hs] at hc
        exact absurd hc (hnil c.toNat)
      | cons a more =>
        rw [hs] at hc hbytes
        obtain ⟨rfl, rfl⟩ := List.cons.inj hbytes
        have h := hnext c.toNat b more rest hc
        rwa [Char.ofNat_toNat] at h

/-- Bytes start with the spelling of one character at most. -/
theorem eq_of_append_eq (h : Reads next spell) {c d : Char} {rest more : Bytes}
    (heq : spell c ++ rest = spell d ++ more) : c = d ∧ rest = more := by
  obtain ⟨b, bytes, hbytes⟩ := List.exists_cons_of_ne_nil (h.ne_nil c)
  have hc := (h.chars_iff b (bytes ++ rest) _ _).mpr ⟨c, rest, by rw [hbytes]; rfl, rfl, rfl⟩
  have hd := (h.chars_iff b (bytes ++ rest) _ _).mpr
    ⟨d, more, by rw [← heq, hbytes]; rfl, rfl, rfl⟩
  rw [hc] at hd
  obtain ⟨_, hchars, _⟩ := Reading.chars.inj hd
  obtain rfl := (List.cons.inj hchars).1
  exact ⟨rfl, List.append_cancel_left heq⟩

/-- The reader finds a character in its spelling. -/
theorem next_of_spell_eq (h : Reads next spell) {c : Char} {b : UInt8} {more : Bytes}
    (hspell : spell c = b :: more) : next () b more = .chars (spell c).length [c] () :=
  (h.chars_iff b more _ _).mpr ⟨c, [], by rw [hspell, List.append_nil], rfl, rfl⟩

/-- One turn of the reading loop takes the spelling of one character. -/
theorem readFrom_spell_append (h : Reads next spell) (c : Char) (rest : Bytes)
    (fuel consumed : Nat) (before : Text) :
    readFrom next (fuel + 1) () (spell c ++ rest) consumed before =
      readFrom next fuel () rest (consumed + (spell c).length) (c :: before) := by
  obtain ⟨b, bytes, hbytes⟩ := List.exists_cons_of_ne_nil (h.ne_nil c)
  have hnext : next () b (bytes ++ rest) = .chars (spell c).length [c] () :=
    (h.chars_iff b (bytes ++ rest) _ _).mpr ⟨c, rest, by rw [hbytes]; rfl, rfl, rfl⟩
  have hdrop : (b :: (bytes ++ rest)).drop (spell c).length = rest := by
    rw [← List.cons_append, ← hbytes]
    exact List.drop_left
  rw [hbytes, List.cons_append, readFrom, hnext, ← hbytes]
  simp only [hdrop]
  rfl

/-- A spelled text is read to its end. -/
theorem readFrom_flatMap_spell (h : Reads next spell) (t : Text) {fuel : Nat}
    (hfuel : (t.flatMap spell).length ≤ fuel) (consumed : Nat) (before : Text) :
    readFrom next fuel () (t.flatMap spell) consumed before = .complete (before.reverse ++ t) := by
  induction t generalizing fuel consumed before with
  | nil => cases fuel <;> simp [readFrom]
  | cons c t ih =>
    rw [List.flatMap_cons, List.length_append] at hfuel
    have hpos := List.length_pos_iff.mpr (h.ne_nil c)
    obtain ⟨fuel, rfl⟩ : ∃ n, fuel = n + 1 := ⟨fuel - 1, by omega⟩
    rw [List.flatMap_cons, h.readFrom_spell_append, ih (by omega), List.reverse_cons,
      List.append_assoc]
    rfl

/-- What is read to its end is a spelled text. -/
theorem eq_flatMap_of_readFrom (h : Reads next spell) {fuel : Nat} {bytes : Bytes}
    {consumed : Nat} {before text : Text} (hfuel : bytes.length ≤ fuel)
    (hread : readFrom next fuel () bytes consumed before = .complete text) :
    ∃ t, bytes = t.flatMap spell ∧ text = before.reverse ++ t := by
  induction fuel generalizing bytes consumed before with
  | zero =>
    obtain rfl := List.length_eq_zero_iff.mp (Nat.le_zero.mp hfuel)
    rw [readFrom] at hread
    obtain rfl := Decoding.complete.inj hread
    exact ⟨[], rfl, (List.append_nil _).symm⟩
  | succ fuel ih =>
    cases bytes with
    | nil =>
      rw [readFrom] at hread
      obtain rfl := Decoding.complete.inj hread
      exact ⟨[], rfl, (List.append_nil _).symm⟩
    | cons b bytes =>
      cases hnext : next () b bytes with
      | malformed length bad ahead =>
        rw [readFrom, hnext] at hread
        cases hread
      | chars length chars after =>
        obtain ⟨c, rest, hbytes, _, _⟩ := (h.chars_iff b bytes length chars).mp hnext
        have hpos := List.length_pos_iff.mpr (h.ne_nil c)
        rw [hbytes, List.length_append] at hfuel
        rw [hbytes, h.readFrom_spell_append] at hread
        obtain ⟨t, rfl, rfl⟩ := ih (by omega) hread
        refine ⟨c :: t, hbytes, ?_⟩
        rw [List.reverse_cons, List.append_assoc]
        rfl

/-- Decoding comes to an end with a text exactly if the bytes behind the mark spell it. -/
theorem readAll_eq_complete_iff (h : Reads next spell) (skipped : Nat) (bytes : Bytes)
    (text : Text) : readAll next () skipped bytes = .complete text ↔
      bytes.drop skipped = text.flatMap spell := by
  constructor
  · intro hread
    obtain ⟨t, hbytes, rfl⟩ := h.eq_flatMap_of_readFrom (Nat.le_refl _) hread
    exact hbytes
  · intro hbytes
    rw [readAll, hbytes]
    exact h.readFrom_flatMap_spell text (Nat.le_refl _) skipped []

/-! ## Malformed bytes -/

/-- Where bytes are malformed no character is spelled. -/
theorem not_isPrefix_of_malformed (h : Reads next spell) {b : UInt8} {bytes : Bytes}
    {length bad ahead : Nat} (hmalformed : next () b bytes = .malformed length bad ahead)
    (c : Char) : ¬ spell c <+: b :: bytes := by
  rintro ⟨rest, hrest⟩
  have hnext := (h.chars_iff b bytes _ _).mpr ⟨c, rest, hrest.symm, rfl, rfl⟩
  rw [hmalformed] at hnext
  cases hnext

/-- What is not read to its end is a spelled text and bytes that are malformed behind it. -/
theorem exists_of_readFrom_malformed (h : Reads next spell) {fuel : Nat} {bytes : Bytes}
    {consumed total bad ahead : Nat} {before text : Text} (hfuel : bytes.length ≤ fuel)
    (hread : readFrom next fuel () bytes consumed before = .malformed text total bad ahead) :
    ∃ t b rest length, bytes = t.flatMap spell ++ b :: rest ∧ text = before.reverse ++ t ∧
      total = consumed + (t.flatMap spell).length + length ∧
      next () b rest = .malformed length bad ahead := by
  induction fuel generalizing bytes consumed before with
  | zero =>
    obtain rfl := List.length_eq_zero_iff.mp (Nat.le_zero.mp hfuel)
    rw [readFrom] at hread
    cases hread
  | succ fuel ih =>
    cases bytes with
    | nil =>
      rw [readFrom] at hread
      cases hread
    | cons b bytes =>
      cases hnext : next () b bytes with
      | malformed length bad' ahead' =>
        rw [readFrom, hnext] at hread
        obtain ⟨rfl, rfl, rfl, rfl⟩ := Decoding.malformed.inj hread
        exact ⟨[], b, bytes, length, rfl, (List.append_nil _).symm, rfl, hnext⟩
      | chars length chars after =>
        obtain ⟨c, rest, hbytes, _, _⟩ := (h.chars_iff b bytes length chars).mp hnext
        have hpos := List.length_pos_iff.mpr (h.ne_nil c)
        rw [hbytes, List.length_append] at hfuel
        rw [hbytes, h.readFrom_spell_append] at hread
        obtain ⟨t, b', rest', length', rfl, rfl, rfl, hrest⟩ := ih (by omega) hread
        refine ⟨c :: t, b', rest', length', ?_, ?_, ?_, hrest⟩
        · rw [hbytes, List.flatMap_cons, List.append_assoc]
        · rw [List.reverse_cons, List.append_assoc]
          rfl
        · rw [List.flatMap_cons, List.length_append]
          omega

/-- A spelled text that begins bytes is an initial piece of any other, behind which no
character is spelled. -/
theorem isPrefix_of_flatMap_isPrefix (h : Reads next spell) {s t : Text} {rest : Bytes}
    (hrest : ∀ c, ¬ spell c <+: rest) (hs : s.flatMap spell <+: t.flatMap spell ++ rest) :
    s <+: t := by
  induction s generalizing t with
  | nil => exact List.nil_prefix
  | cons c s ih =>
    cases t with
    | nil => exact absurd ((List.prefix_append _ _).trans hs) (hrest c)
    | cons d t =>
      obtain ⟨more, hmore⟩ := hs
      rw [List.flatMap_cons, List.flatMap_cons, List.append_assoc, List.append_assoc] at hmore
      obtain ⟨rfl, htail⟩ := h.eq_of_append_eq hmore
      exact List.cons_prefix_cons.mpr ⟨rfl, ih ⟨more, htail⟩⟩

/-- One spelled text begins another exactly if the texts themselves do so. -/
theorem flatMap_isPrefix_iff (h : Reads next spell) {s t : Text} :
    s.flatMap spell <+: t.flatMap spell ↔ s <+: t := by
  constructor
  · intro hs
    have hnil : ∀ c, ¬ spell c <+: [] := fun c hc => h.ne_nil c (List.prefix_nil.mp hc)
    apply h.isPrefix_of_flatMap_isPrefix hnil
    rwa [List.append_nil]
  · rintro ⟨u, rfl⟩
    rw [List.flatMap_append]
    exact List.prefix_append _ _

end Reads

end LexScan.Encoding
