import LexScan.Proofs.UnicodeDecoding

/-!
# Where decoding stops

Bytes in UTF-8 or UTF-16 that are no encoded text fall apart at one place: behind a byte
order mark, if there is one, stands the longest text that can be decoded there, then the
malformed bytes, then the rest. A failing decoder knows the malformed bytes by three counts
only; taken off one another these never fall below zero, and they cut out just those bytes.
The position in the failure is that of the end of the text.
-/

namespace LexScan

/-- What is left out in front of the bytes that are read: a mark, or nothing. -/
theorem Encoding.exists_front (e : Encoding) (bytes : Bytes) :
    ∃ front, bytes = front ++ bytes.drop (e.markLength bytes) ∧
      e.markLength bytes = front.length ∧
      (front = [] ∧ ¬ e.mark <+: bytes ∨ front = e.mark) := by
  rcases e.cases_mark bytes with ⟨rest, rfl, hrest⟩ | ⟨hno, hall⟩
  · refine ⟨e.mark, by rw [hrest], ?_, .inr rfl⟩
    exact if_pos (List.isPrefixOf_iff_prefix.mpr (List.prefix_append _ _))
  · refine ⟨[], by rw [hall, List.nil_append], ?_, .inl ⟨rfl, hno⟩⟩
    exact if_neg (fun h => hno (List.isPrefixOf_iff_prefix.mp h))

namespace Source

/-- The counts cut out the malformed bytes between what is in front of them and what is
behind them. -/
theorem malformedBytes_append (front bad rest : Bytes) (ahead : Nat) :
    malformedBytes (front ++ bad ++ rest) (front.length + bad.length + ahead) bad.length ahead =
      bad := by
  have hlast : front.length + bad.length + ahead - ahead = (front ++ bad).length := by
    rw [Nat.add_sub_cancel, List.length_append]
  have hfirst : (front ++ bad).length - bad.length = front.length := by
    rw [List.length_append, Nat.add_sub_cancel]
  rw [malformedBytes, hlast, hfirst, List.take_left, List.drop_left]

theorem value_decode_eq_malformed {tables : Encoding.Tables} {bytes bad : Bytes}
    {e e' : Encoding} {position : TextPosition}
    (h : (decode tables bytes e).value = .error (.malformed bad e' position)) :
    e' = e ∧ ∃ text consumed length ahead,
      e.decode tables bytes = .malformed text consumed length ahead ∧
      bad = malformedBytes bytes consumed length ahead ∧
      position = TextPosition.atOffset .ascii text text.size := by
  rw [decode] at h
  split at h
  · cases h
  · next text consumed length ahead hdecode =>
    obtain ⟨rfl, rfl, rfl⟩ := SourceError.malformed.inj (Except.error.inj h)
    exact ⟨rfl, text, consumed, length, ahead, hdecode, rfl, rfl⟩

end Source

namespace Utf

/-- Bytes at which decoding stops: the text in front of the malformed bytes, these bytes, and
those behind them. -/
structure Stops (f : Utf) (bytes : Bytes) (text : Text) (bad rest : Bytes) : Prop where
  behind_mark : (bytes = f.encode text ++ bad ++ rest ∧ ¬ f.encoding.mark <+: bytes) ∨
    bytes = f.encoding.mark ++ f.encode text ++ bad ++ rest
  bad_ne_nil : bad ≠ []
  /-- Behind the text no character is encoded. -/
  no_character : ∀ c, ¬ f.spell c <+: bad ++ rest
  /-- In UTF-8 the malformed bytes are those that a character can begin with. -/
  longestStart : f = .utf8 → bad.length ≤ 3 ∧ Encoding.LongestStart f.spell (bad ++ rest) bad

variable {f : Utf} {tables : Encoding.Tables} {bytes bad rest : Bytes} {s t : Text}

/-- Every text that is encoded behind the mark begins the text in front of the malformed
bytes. -/
theorem Stops.isPrefix (h : f.Stops bytes t bad rest)
    (hs : f.encode s <+: f.encode t ++ bad ++ rest) : s <+: t := by
  rw [List.append_assoc] at hs
  exact f.reads.isPrefix_of_flatMap_isPrefix h.no_character hs

theorem countsMalformed_next (f : Utf) : Encoding.CountsMalformed f.next := by
  cases f with
  | utf8 => exact Encoding.Utf8.countsMalformed_next
  | utf16 order => exact Encoding.Utf16.countsMalformed_next order

theorem decode_eq_readAll (f : Utf) (tables : Encoding.Tables) (bytes : Bytes) :
    f.encoding.decode tables bytes =
      Encoding.readAll f.next () (f.encoding.markLength bytes) bytes := by
  cases f <;> rfl

/-- What a decoder has read when it stops: the mark, if there is one, the text, the malformed
bytes, and some bytes behind them. -/
theorem exists_of_decode_eq_malformed {consumed length ahead : Nat}
    (h : f.encoding.decode tables bytes = .malformed t consumed length ahead) :
    ∃ front bad rest, bytes = front ++ f.encode t ++ bad ++ rest ∧
      (front = [] ∧ ¬ f.encoding.mark <+: bytes ∨ front = f.encoding.mark) ∧
      bad.length = length ∧ 0 < length ∧ ahead ≤ rest.length ∧
      consumed = (front ++ f.encode t).length + bad.length + ahead ∧
      ∃ b more, b :: more = bad ++ rest ∧
        f.next () b more = .malformed (length + ahead) length ahead := by
  rw [decode_eq_readAll, Encoding.readAll] at h
  obtain ⟨text, b, more, total, hbytes, rfl, rfl, hnext⟩ :=
    f.reads.exists_of_readFrom_malformed (Nat.le_refl _) h
  obtain ⟨hpos, rfl, hle⟩ := f.countsMalformed_next b more _ _ _ hnext
  have hsplit : b :: more = (b :: more).take length ++ (b :: more).drop length :=
    (List.take_append_drop length (b :: more)).symm
  have hlength : ((b :: more).take length).length = length := by
    rw [List.length_take]
    omega
  obtain ⟨front, hfront, hskipped, hmark⟩ := f.encoding.exists_front bytes
  refine ⟨front, (b :: more).take length, (b :: more).drop length, ?_, hmark, hlength, hpos,
    ?_, ?_, b, more, hsplit, hnext⟩
  · rw [List.append_assoc, ← hsplit, List.append_assoc]
    exact hfront.trans (congrArg (front ++ ·) hbytes)
  · rw [List.length_drop]
    omega
  · rw [hskipped, hlength, List.length_append]
    exact (Nat.add_assoc _ _ _).symm

/-- A decoder that fails on malformed bytes has found the one place where the bytes stop to
be an encoded text. Its counts can be taken off one another and lie within the bytes; the
bytes that they cut out are some, stand behind the longest text that can be decoded behind
the byte order mark, and no character is encoded where they begin; the position is that of
the end of the text. In UTF-8 they are three bytes at most, the longest initial piece of what
follows the text that a character can begin with, or one byte if there is no such piece. -/
theorem decode_stops_at_malformed (f : Utf) {tables : Encoding.Tables} {bytes bad : Bytes}
    {e : Encoding} {position : TextPosition}
    (h : (Source.decode tables bytes f.encoding).value = .error (.malformed bad e position)) :
    e = f.encoding ∧ ∃ text rest consumed ahead,
      f.encoding.decode tables bytes = .malformed text consumed bad.length ahead ∧
      consumed ≤ bytes.length ∧ ahead ≤ consumed ∧ bad.length ≤ consumed - ahead ∧
      position = TextPosition.atOffset .ascii text text.size ∧
      f.Stops bytes text bad rest ∧
      ∀ s, f.encode s <+: f.encode text ++ bad ++ rest → s <+: text := by
  obtain ⟨rfl, text, consumed, length, ahead, hdecode, hbad, hposition⟩ :=
    Source.value_decode_eq_malformed h
  obtain ⟨front, found, rest, hbytes, hfront, rfl, hpos, hahead, hconsumed, b, more, hmore,
    hnext⟩ := exists_of_decode_eq_malformed hdecode
  have hfound : bad = found := by
    rw [hbad, hconsumed, hbytes]
    exact Source.malformedBytes_append _ _ _ _
  subst hfound
  have hlength := congrArg List.length hbytes
  rw [List.length_append, List.length_append] at hlength
  have hstops : f.Stops bytes text bad rest := by
    refine ⟨?_, List.length_pos_iff.mp hpos, ?_, ?_⟩
    · rcases hfront with ⟨rfl, hmark⟩ | rfl
      · exact .inl ⟨hbytes, hmark⟩
      · exact .inr hbytes
    · intro c
      rw [← hmore]
      exact f.reads.not_isPrefix_of_malformed hnext c
    · rintro rfl
      obtain ⟨hthree, hlongest⟩ := Encoding.Utf8.longestStart_of_malformed hnext
      rw [hmore, List.take_left] at hlongest
      exact ⟨hthree, hlongest⟩
  refine ⟨rfl, text, rest, consumed, ahead, hdecode, ?_, ?_, ?_, hposition, hstops,
    fun s hs => hstops.isPrefix hs⟩
  · omega
  · omega
  · omega

/-- A sequence that breaks off behind a mark and a line, and a high surrogate that is known
to be alone by the unit behind it. -/
theorem decode_stops_at_malformed_within_line :
    let broken : Bytes := [0xEF, 0xBB, 0xBF, 0x61, 0x0A, 0xF0, 0x9F, 0x41]
    let alone : Bytes := [0x00, 0x61, 0xD8, 0x00, 0x00, 0x41]
    ((Source.decode {} broken Utf.utf8.encoding).value =
        .error (.malformed [0xF0, 0x9F] .utf8 ⟨1, 0⟩) ∧
      ∃ text rest, utf8.Stops broken text [0xF0, 0x9F] rest) ∧
    (Source.decode {} alone (utf16 .big).encoding).value =
        .error (.malformed [0xD8, 0x00] (.utf16 .big) ⟨0, 1⟩) ∧
      ∃ text rest consumed ahead,
        (utf16 .big).encoding.decode {} alone = .malformed text consumed 2 ahead ∧
        ahead ≤ consumed ∧ 2 ≤ consumed - ahead ∧
        (utf16 .big).Stops alone text [0xD8, 0x00] rest := by
  intro broken alone
  have hbroken : (Source.decode {} broken Utf.utf8.encoding).value =
      .error (.malformed [0xF0, 0x9F] .utf8 ⟨1, 0⟩) := by rfl
  have halone : (Source.decode {} alone (utf16 .big).encoding).value =
      .error (.malformed [0xD8, 0x00] (.utf16 .big) ⟨0, 1⟩) := by
    have hdecode : (utf16 .big).encoding.decode {} alone = .malformed ['a'] 6 2 2 := by
      decide +kernel
    rw [Source.decode, hdecode]
    rfl
  obtain ⟨_, text, rest, _, _, _, _, _, _, _, hstops, _⟩ :=
    decode_stops_at_malformed utf8 hbroken
  obtain ⟨_, text', rest', consumed, ahead, hdecode, _, hahead, hlength, _, hstops', _⟩ :=
    decode_stops_at_malformed (utf16 .big) halone
  exact ⟨⟨hbroken, text, rest, hstops⟩, halone, text', rest', consumed, ahead, hdecode, hahead,
    hlength, hstops'⟩

end Utf

end LexScan
