import LexScan.Proofs.Utf16
import LexScan.Proofs.Utf8
import LexScan.Source

/-!
# Decoding undoes encoding

For UTF-8 and for UTF-16 in either byte order, decoding gives back the text that was
encoded, less one byte order mark at its start. It comes to a text on well-formed bytes and
on no others, and that text encodes to the same bytes again, up to that one mark.
-/

namespace LexScan

namespace Encoding

variable {e : Encoding} {bytes : Bytes}

theorem drop_markLength_append (e : Encoding) (rest : Bytes) :
    (e.mark ++ rest).drop (e.markLength (e.mark ++ rest)) = rest := by
  have h : e.mark.isPrefixOf (e.mark ++ rest) = true :=
    List.isPrefixOf_iff_prefix.mpr (List.prefix_append _ _)
  rw [markLength, if_pos h]
  exact List.drop_left

theorem drop_markLength_of_not_isPrefix (h : ¬ e.mark <+: bytes) :
    bytes.drop (e.markLength bytes) = bytes := by
  rw [markLength, if_neg (fun hmark => h (List.isPrefixOf_iff_prefix.mp hmark))]
  rfl

/-- The bytes behind a mark are read, or all bytes where there is none. -/
theorem cases_mark (e : Encoding) (bytes : Bytes) :
    (∃ rest, bytes = e.mark ++ rest ∧ bytes.drop (e.markLength bytes) = rest) ∨
      (¬ e.mark <+: bytes ∧ bytes.drop (e.markLength bytes) = bytes) := by
  by_cases h : e.mark <+: bytes
  · left
    obtain ⟨rest, rfl⟩ := h
    exact ⟨rest, rfl, drop_markLength_append e rest⟩
  · right
    exact ⟨h, drop_markLength_of_not_isPrefix h⟩

end Encoding

namespace Source

theorem value_decode_eq_ok_iff {tables : Encoding.Tables} {bytes : Bytes} {e : Encoding}
    {t : Text} : (decode tables bytes e).value = .ok t ↔ e.decode tables bytes = .complete t := by
  rw [decode]
  constructor
  · intro h
    split at h
    · next text hdecode =>
      cases h
      exact hdecode
    · cases h
  · intro h
    rw [h]
    rfl

end Source

/-- The transformation formats among the encodings. -/
inductive Utf where
  | utf8
  | utf16 (order : Encoding.ByteOrder)
deriving DecidableEq, Repr

/-- The character whose encoding is the byte order mark. -/
def byteOrderMark : Char := '\uFEFF'

namespace Utf

def encoding : Utf → Encoding
  | utf8 => .utf8
  | utf16 order => .utf16 order

def next : Utf → Encoding.Reader Unit
  | utf8 => Encoding.Utf8.next
  | utf16 order => Encoding.Utf16.next order

def spell : Utf → Char → Bytes
  | utf8 => String.utf8EncodeChar
  | utf16 order => Encoding.Utf16.spell order

def encode (f : Utf) (s : Text) : Bytes := s.flatMap f.spell

/-- A code point and the bytes that it is written as. -/
def Written : Utf → Nat → Bytes → Prop
  | utf8 => Encoding.Utf8.Written
  | utf16 order => Encoding.Utf16.Written order

/-- Bytes that are written code points and nothing between or behind them. -/
inductive WellFormed (f : Utf) : Bytes → Prop where
  | nil : WellFormed f []
  | cons {n : Nat} {piece rest : Bytes} (hpiece : f.Written n piece)
      (hrest : WellFormed f rest) : WellFormed f (piece ++ rest)

variable (f : Utf) {tables : Encoding.Tables} {bytes : Bytes} {s t : Text}

theorem reads : Encoding.Reads f.next f.spell := by
  cases f with
  | utf8 => exact Encoding.Utf8.reads_utf8EncodeChar
  | utf16 order => exact Encoding.Utf16.reads_spell order

theorem written_spell (c : Char) : f.Written c.toNat (f.spell c) := by
  cases f with
  | utf8 => exact Encoding.Utf8.written_utf8EncodeChar c
  | utf16 order => exact Encoding.Utf16.written_spell order c

theorem eq_spell_of_written {n : Nat} (h : f.Written n bytes) :
    bytes = f.spell (Char.ofNat n) := by
  cases f with
  | utf8 => exact h.eq_utf8EncodeChar
  | utf16 order => exact h.eq_spell

/-- The well-formed bytes are the encoded texts. -/
theorem wellFormed_iff : f.WellFormed bytes ↔ ∃ s, bytes = f.encode s := by
  constructor
  · intro h
    induction h with
    | nil => exact ⟨[], rfl⟩
    | @cons n piece rest hpiece _ ih =>
      obtain ⟨s, rfl⟩ := ih
      refine ⟨Char.ofNat n :: s, ?_⟩
      rw [f.eq_spell_of_written hpiece]
      rfl
  · rintro ⟨s, rfl⟩
    induction s with
    | nil => exact .nil
    | cons c s ih => exact .cons (f.written_spell c) ih

/-! ## The mark -/

theorem mark_eq : f.encoding.mark = f.spell byteOrderMark := by
  cases f with
  | utf8 => decide
  | utf16 order => cases order <;> decide

theorem mark_append_encode (t : Text) :
    f.encoding.mark ++ f.encode t = f.encode (byteOrderMark :: t) := by
  rw [mark_eq]
  rfl

/-- An encoded text starts with the mark only if the text starts with the character. -/
theorem mark_isPrefix_encode_iff :
    f.encoding.mark <+: f.encode s ↔ s.head? = some byteOrderMark := by
  rw [mark_eq]
  cases s with
  | nil =>
    constructor
    · intro h
      exact absurd (List.prefix_nil.mp h) (f.reads.ne_nil _)
    · intro h
      cases h
  | cons c s =>
    rw [List.head?_cons, Option.some.injEq]
    constructor
    · rintro ⟨rest, hrest⟩
      exact (f.reads.eq_of_append_eq hrest).1.symm
    · rintro rfl
      exact List.prefix_append _ _

/-! ## Decoding -/

theorem decode_eq_complete_iff : f.encoding.decode tables bytes = .complete t ↔
    bytes.drop (f.encoding.markLength bytes) = f.encode t := by
  cases f with
  | utf8 => exact (reads utf8).readAll_eq_complete_iff _ _ _
  | utf16 order => exact (reads (utf16 order)).readAll_eq_complete_iff _ _ _

/-- Bytes say a text if they are its encoding behind a mark, or without one where the text
does not start with the character of the mark itself. -/
theorem value_decode_eq_ok_iff : (Source.decode tables bytes f.encoding).value = .ok t ↔
    (bytes = f.encode t ∧ t.head? ≠ some byteOrderMark) ∨
      bytes = f.encoding.mark ++ f.encode t := by
  rw [Source.value_decode_eq_ok_iff, decode_eq_complete_iff]
  constructor
  · intro h
    rcases f.encoding.cases_mark bytes with ⟨rest, rfl, hrest⟩ | ⟨hmark, hall⟩
    · right
      rw [← h, hrest]
    · left
      rw [hall] at h
      refine ⟨h, ?_⟩
      rwa [h, mark_isPrefix_encode_iff] at hmark
  · rintro (⟨rfl, hhead⟩ | rfl)
    · apply Encoding.drop_markLength_of_not_isPrefix
      rwa [mark_isPrefix_encode_iff]
    · rw [Encoding.drop_markLength_append]

theorem value_decode_encode (s : Text) : (Source.decode tables (f.encode s) f.encoding).value =
    .ok (if s.head? = some byteOrderMark then s.tail else s) := by
  rw [value_decode_eq_ok_iff]
  split
  · next hhead =>
    obtain ⟨t, rfl⟩ := List.head?_eq_some_iff.mp hhead
    right
    exact (f.mark_append_encode t).symm
  · next hhead =>
    left
    exact ⟨rfl, hhead⟩

/-- Decoding undoes encoding and removes one byte order mark: an encoded text is decoded to
itself, or to what stands behind the mark that it starts with; bytes that say a text are
its encoding, with or without a mark before it; and the bytes that say some text are the
well-formed ones. -/
theorem decode_inverts_encode (f : Utf) (tables : Encoding.Tables) :
    (∀ s, (Source.decode tables (f.encode s) f.encoding).value =
      .ok (if s.head? = some byteOrderMark then s.tail else s)) ∧
    (∀ bytes t, (Source.decode tables bytes f.encoding).value = .ok t ↔
      (bytes = f.encode t ∧ t.head? ≠ some byteOrderMark) ∨
        bytes = f.encoding.mark ++ f.encode t) ∧
    ∀ bytes, (∃ t, (Source.decode tables bytes f.encoding).value = .ok t) ↔ f.WellFormed bytes := by
  refine ⟨f.value_decode_encode, fun bytes t => f.value_decode_eq_ok_iff, ?_⟩
  intro bytes
  rw [wellFormed_iff]
  constructor
  · rintro ⟨t, ht⟩
    rcases f.value_decode_eq_ok_iff.mp ht with ⟨hbytes, _⟩ | hbytes
    · exact ⟨t, hbytes⟩
    · exact ⟨byteOrderMark :: t, hbytes.trans (f.mark_append_encode t)⟩
  · rintro ⟨s, rfl⟩
    exact ⟨_, f.value_decode_encode s⟩

end Utf

end LexScan
