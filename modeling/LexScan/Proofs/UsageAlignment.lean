import LexScan.Proofs.UsageColumns

/-!
# The alignment of usage texts

What a usage text lines up it lines up in bytes: in front of every long name stand equally
many bytes on its line, and in front of every line of a description as many as its column
says. Both hold for all names without line feeds, whatever the width.

Columns are characters, though. Where the names are ASCII the two counts agree, and all long
names and all lines of descriptions begin in one column each. Where they are not, a name of
more bytes than characters moves what is behind it on its line to the left.
-/

namespace LexScan

namespace Text

/-- Every character is one byte. -/
def IsAscii (t : Text) : Prop := ∀ c ∈ t, c.toNat < 128

instance (t : Text) : Decidable t.IsAscii :=
  List.decidableBAll (fun c : Char => c.toNat < 128) t

variable {s t : Text}

theorem isAscii_append : (s ++ t).IsAscii ↔ s.IsAscii ∧ t.IsAscii := List.forall_mem_append

theorem IsAscii.size_eq_length (h : t.IsAscii) : t.size = t.length := by
  induction t with
  | nil => rfl
  | cons c t ih =>
    obtain ⟨hc, ht⟩ := List.forall_mem_cons.mp h
    have hsize : c.utf8Size = 1 := by
      rw [Char.utf8Size_eq_one_iff, UInt32.le_iff_toNat_le]
      exact Nat.le_of_lt_succ hc
    rw [size_cons, List.length_cons, ih ht, hsize, Nat.add_comm]

theorem lastLine_of_not_mem (h : '\n' ∉ t) : t.lastLine = t := lastLine_append_of_not_mem h []

theorem IsAscii.lastLine (h : t.IsAscii) : t.lastLine.IsAscii := by
  intro c hc
  have hmem := (List.takeWhile_prefix _).subset (List.mem_reverse.mp hc)
  exact h c (List.mem_reverse.mp hmem)

end Text

namespace Styled

theorem feed_not_mem_blanks (n : Nat) : '\n' ∉ blanks n := by
  intro h
  cases List.eq_of_mem_replicate h

theorem isAscii_blanks (n : Nat) : Text.IsAscii (blanks n) := by
  intro c hc
  obtain rfl := List.eq_of_mem_replicate hc
  decide

theorem lastLine_blanks (n : Nat) : Text.lastLine (blanks n) = blanks n :=
  Text.lastLine_of_not_mem (feed_not_mem_blanks n)

end Styled

namespace CommandLine

/-- All that a usage text says about an option in front of its description. -/
def Switch.shownNames (s : Switch) : Text := s.short.getD [] ++ s.longText

namespace Template

/-- Where long names start. -/
def nameColumn (t : Template) : Nat := indentation + t.columns.short + 2

/-- An option and all that is written before its long name. -/
inductive LongNameAt (t : Template) (program : Text) (width : Nat) : Text → Switch → Prop where
  | mk {before after : List Switch} {s : Switch} (hswitches : t.switches = before ++ s :: after) :
      LongNameAt t program width
        (Styled.plain (t.heading program)
          ++ (before.map (t.entry width)).flatMap (Entry.text (t.descriptionColumn width))
          ++ t.margin s) s

variable {t : Template} {s : Switch} {program before line : Text} {width : Nat} {c : Char}

/-! ## Names -/

theorem mem_margin (h : c ∈ t.margin s) : c = ' ' ∨ c = ',' ∨ c ∈ s.shownNames := by
  rw [margin, List.mem_append] at h
  rcases h with hblank | hpieces
  · exact .inl (List.eq_of_mem_replicate hblank)
  · cases hshort : s.short with
    | none =>
      have hblank : c ∈ Styled.blanks (t.columns.short + 2) := by
        simpa [shortPieces, hshort] using hpieces
      exact .inl (List.eq_of_mem_replicate hblank)
    | some short =>
      have hmem : c ∈ short ∨ c = ',' ∨
          c ∈ Styled.blanks (t.columns.short - short.size + 1) := by
        simpa [shortPieces, hshort] using hpieces
      rcases hmem with hname | hcomma | hblank
      · exact .inr (.inr (by simp [Switch.shownNames, hshort, hname]))
      · exact .inr (.inl hcomma)
      · exact .inl (List.eq_of_mem_replicate hblank)

/-- The names of an option stand between spaces and a comma. -/
theorem mem_label (h : c ∈ t.label s) : c = ' ' ∨ c = ',' ∨ c ∈ s.shownNames := by
  rw [label_eq, List.mem_append] at h
  rcases h with hmargin | hlong
  · exact mem_margin hmargin
  · exact .inr (.inr (List.mem_append_right _ hlong))

theorem feed_not_mem_label (h : '\n' ∉ s.shownNames) : '\n' ∉ t.label s := by
  intro hmem
  rcases mem_label hmem with hspace | hcomma | hname
  · cases hspace
  · cases hcomma
  · exact h hname

theorem isAscii_label (h : s.shownNames.IsAscii) : (t.label s).IsAscii := by
  intro c hc
  rcases mem_label hc with rfl | rfl | hname
  · decide
  · decide
  · exact h c hname

theorem LongNameAt.mem (h : LongNameAt t program width before s) : s ∈ t.switches := by
  obtain ⟨hswitches⟩ := h
  simp [hswitches]

/-- On its line, a long name has nothing but its margin in front of it. -/
theorem LongNameAt.lastLine_eq (h : LongNameAt t program width before s)
    (hnames : '\n' ∉ s.shownNames) : before.lastLine = t.margin s := by
  obtain ⟨hswitches⟩ := h
  have hhead := Entry.getLast?_append_flatMap_text (t.getLast?_heading program)
    (t.descriptionColumn width)
  have hmargin : '\n' ∉ t.margin s := by
    have hlabel := feed_not_mem_label (t := t) hnames
    rw [label_eq, List.mem_append, not_or] at hlabel
    exact hlabel.1
  rw [Text.lastLine_append (hhead _), Text.lastLine_of_not_mem hmargin]

theorem LongNameAt.isPrefix (h : LongNameAt t program width before s) :
    before ++ s.longText <+: Styled.plain (t.usage program width) := by
  obtain @⟨_, after, s, hswitches⟩ := h
  rw [plain_usage, hswitches, List.map_append, List.map_cons, List.flatMap_append,
    List.flatMap_cons, Entry.text, entry, label_eq]
  simp only [List.append_assoc, List.prefix_append_right_inj]
  exact List.prefix_append _ _

/-! ## Descriptions -/

/-- The first line of a description starts behind as many bytes as its column says, on the line
of the names or on the next one. -/
theorem size_lastLine_front (hs : s ∈ t.switches) (hnames : '\n' ∉ s.shownNames) (width : Nat) :
    (t.entry width s).front.lastLine.size = t.descriptionColumn width := by
  rcases Nat.lt_or_ge (t.label s).size (t.descriptionColumn width) with hlt | hle
  · have hfeed : '\n' ∉ t.label s ++
        Styled.blanks (t.descriptionColumn width - (t.label s).size) := by
      rw [List.mem_append, not_or]
      exact ⟨feed_not_mem_label hnames, Styled.feed_not_mem_blanks _⟩
    rw [front_of_lt hs hlt, Text.lastLine_of_not_mem hfeed, Text.size_append, Styled.size_blanks]
    omega
  · rw [front_of_le hs hle, Text.lastLine_append_feed, Styled.lastLine_blanks, Styled.size_blanks]

theorem isAscii_lastLine_front (hs : s ∈ t.switches) (h : s.shownNames.IsAscii) (width : Nat) :
    (t.entry width s).front.lastLine.IsAscii := by
  rcases Nat.lt_or_ge (t.label s).size (t.descriptionColumn width) with hlt | hle
  · rw [front_of_lt hs hlt]
    exact (Text.isAscii_append.mpr ⟨isAscii_label h, Styled.isAscii_blanks _⟩).lastLine
  · rw [front_of_le hs hle, Text.lastLine_append_feed, Styled.lastLine_blanks]
    exact Styled.isAscii_blanks _

/-- On its line, a line of a description has in front of it what the first line of some
description has, or the spaces up to its column. -/
theorem lastLine_before_description
    (h : DescriptionAt (t.descriptionColumn width) (Styled.plain (t.heading program))
      (t.switches.map (t.entry width)) before line) :
    (∃ s ∈ t.switches, before.lastLine = (t.entry width s).front.lastLine) ∨
      before.lastLine = Styled.blanks (t.descriptionColumn width) := by
  obtain @⟨es, more, e, lines, rest, _, hentries, hlines⟩ := h
  have he : e ∈ t.switches.map (t.entry width) := by simp [hentries]
  obtain ⟨s, hs, rfl⟩ := List.mem_map.mp he
  have hhead := Entry.getLast?_append_flatMap_text (t.getLast?_heading program)
    (t.descriptionColumn width) es
  rcases Entry.lastLine_append_upTo hhead (t.descriptionColumn width) (t.entry width s) lines with
    hfirst | hmore
  · exact .inl ⟨s, hs, hfirst⟩
  · exact .inr (hmore.trans (Styled.lastLine_blanks _))

/-! ## Alignment -/

/-- Long names without line feeds begin behind the same number of bytes on their lines, and so
do all lines of all descriptions. If the names are ASCII, both begin in one column each. -/
theorem usage_aligned (t : Template) (program : Text) (width : Nat)
    (hnames : ∀ s ∈ t.switches, '\n' ∉ s.shownNames) :
    let column := t.descriptionColumn width
    let heading := Styled.plain (t.heading program)
    let entries := t.switches.map (t.entry width)
    let text := Styled.plain (t.usage program width)
    (∀ before s, LongNameAt t program width before s →
      before ++ s.longText <+: text ∧ before.lastLine.size = t.nameColumn) ∧
    (∀ before line, DescriptionAt column heading entries before line →
      before ++ line ++ ['\n'] <+: text ∧ before.lastLine.size = column) ∧
    ((∀ s ∈ t.switches, s.shownNames.IsAscii) →
      (∀ before s, LongNameAt t program width before s → before.lastColumn = t.nameColumn) ∧
      ∀ before line, DescriptionAt column heading entries before line →
        before.lastColumn = column) := by
  intro column heading entries text
  have hlong : ∀ before s, LongNameAt t program width before s →
      before.lastLine.size = t.nameColumn := by
    intro before s h
    rw [h.lastLine_eq (hnames s h.mem), size_margin h.mem, nameColumn]
  have hdescription : ∀ before line, DescriptionAt column heading entries before line →
      before.lastLine.size = column := by
    intro before line h
    rcases lastLine_before_description h with ⟨s, hs, hfront⟩ | hblanks
    · rw [hfront, size_lastLine_front hs (hnames s hs)]
    · rw [hblanks, Styled.size_blanks]
  refine ⟨fun before s h => ⟨h.isPrefix, hlong before s h⟩,
    fun before line h => ⟨description_isPrefix h, hdescription before line h⟩,
    fun hascii => ⟨fun before s h => ?_, fun before line h => ?_⟩⟩
  · have hline : before.lastLine.IsAscii := by
      rw [h.lastLine_eq (hnames s h.mem)]
      exact (Text.isAscii_append.mp (isAscii_label (hascii s h.mem))).1
    rw [← Text.length_lastLine, ← hline.size_eq_length, hlong before s h]
  · have hline : before.lastLine.IsAscii := by
      rcases lastLine_before_description h with ⟨s, hs, hfront⟩ | hblanks
      · rw [hfront]
        exact isAscii_lastLine_front hs (hascii s hs) width
      · rw [hblanks]
        exact Styled.isAscii_blanks _
    rw [← Text.length_lastLine, ← hline.size_eq_length, hdescription before line h]

/-- The second of two options has the wider long name: its description is on the next line,
and continues on one more. -/
theorem usage_aligned_below_wide_name :
    let s : Switch := { long := "--a".toList, short := some "-a".toList,
                        description := "x".toList }
    let w : Switch := { long := "--label".toList, parameter := some "<n>".toList,
                        description := "one two three four".toList }
    let t : Template := { switches := [s, w] }
    let heading := Styled.plain (t.heading [])
    let entries := t.switches.map (t.entry 26)
    let first := heading ++ [(t.entry 26 s)].flatMap (Entry.text (t.descriptionColumn 26))
    let atLine := first ++ (t.entry 26 w).upTo (t.descriptionColumn 26) ["one two three".toList]
    (∀ s ∈ t.switches, '\n' ∉ s.shownNames) ∧ (∀ s ∈ t.switches, s.shownNames.IsAscii) ∧
    LongNameAt t [] 26 (first ++ t.margin w) w ∧
    DescriptionAt (t.descriptionColumn 26) heading entries atLine "four".toList ∧
    t.nameColumn = 8 ∧ Text.lastColumn (first ++ t.margin w) = 8 ∧
    t.descriptionColumn 26 = 13 ∧ atLine.lastColumn = 13 := by
  intro s w t heading entries first atLine
  have hnames : ∀ s ∈ t.switches, '\n' ∉ s.shownNames := by decide
  have hascii : ∀ s ∈ t.switches, s.shownNames.IsAscii := by decide
  have hw : LongNameAt t [] 26 (first ++ t.margin w) w := @LongNameAt.mk t [] 26 [s] [] w rfl
  have hlines : (t.entry 26 w).lines = ["one two three".toList] ++ "four".toList :: [] := by
    decide
  have hline : DescriptionAt (t.descriptionColumn 26) heading entries atLine "four".toList :=
    @DescriptionAt.mk _ _ entries [t.entry 26 s] [] (t.entry 26 w) _ [] _ rfl hlines
  obtain ⟨-, -, hcolumns⟩ := usage_aligned t [] 26 hnames
  obtain ⟨hlong, hdescriptions⟩ := hcolumns hascii
  exact ⟨hnames, hascii, hw, hline, rfl, hlong _ w hw, rfl, hdescriptions _ _ hline⟩

/-- With an umlaut in a short name, which is a byte more, the long name behind it and the
description do not begin in the columns of those below. -/
theorem usage_unaligned_by_umlaut :
    let s : Switch := { long := "--a".toList, short := some "-ä".toList,
                        description := "x".toList }
    let w : Switch := { long := "--b".toList, short := some "-b".toList,
                        description := "y".toList }
    let t : Template := { switches := [s, w] }
    let heading := Styled.plain (t.heading "p".toList)
    let entries := t.switches.map (t.entry 80)
    (∀ s ∈ t.switches, '\n' ∉ s.shownNames) ∧
    (∃ before after, LongNameAt t "p".toList 80 before s ∧ LongNameAt t "p".toList 80 after w ∧
      before.lastColumn = 8 ∧ after.lastColumn = 9) ∧
    ∃ before after, DescriptionAt (t.descriptionColumn 80) heading entries before "x".toList ∧
      DescriptionAt (t.descriptionColumn 80) heading entries after "y".toList ∧
      before.lastColumn = 12 ∧ after.lastColumn = 13 := by
  intro s w t heading entries
  have hs : (t.entry 80 s).lines = [] ++ "x".toList :: [] := by decide
  have hw : (t.entry 80 w).lines = [] ++ "y".toList :: [] := by decide
  refine ⟨by decide, ⟨_, _, @LongNameAt.mk t _ 80 [] [w] s rfl,
    @LongNameAt.mk t _ 80 [s] [] w rfl, by decide, by decide⟩, ?_⟩
  exact ⟨_, _, @DescriptionAt.mk _ _ entries [] [t.entry 80 w] (t.entry 80 s) _ _ _ rfl hs,
    @DescriptionAt.mk _ _ entries [t.entry 80 s] [] (t.entry 80 w) _ _ _ rfl hw,
    by decide, by decide⟩

end Template
end CommandLine
end LexScan
