import LexScan.CommandLine.Usage
import LexScan.Proofs.WrappedLines

/-!
# The columns of usage texts

A usage text is a heading, one entry for each option and an ending. An entry is the names,
the way to the description column, and the description on lines that are indented to this
column but for the first. Paddings are differences of natural numbers; the checked form of
the text, which has no value where one of them would be below zero, always has a value and
is the text.

Widths of names are bytes and columns are characters. So a description may start in front of
its column if the names are not ASCII, but never behind it, and its lines end within the
width of the terminal.
-/

namespace LexScan

namespace Text

/-- The characters behind the last line feed. -/
def lastLine (t : Text) : Text := (t.reverse.takeWhile (· ≠ '\n')).reverse

/-- How many characters stand on the last line of a text. -/
def lastColumn (t : Text) : Nat := (t.reverse.takeWhile (· ≠ '\n')).length

theorem length_lastLine (t : Text) : t.lastLine.length = t.lastColumn := List.length_reverse

theorem lastColumn_le_length (t : Text) : t.lastColumn ≤ t.length :=
  (List.takeWhile_prefix _).length_le.trans List.length_reverse.le

theorem lastLine_append_feed (s t : Text) : (s ++ '\n' :: t).lastLine = t.lastLine := by
  have hreverse : (s ++ '\n' :: t).reverse = t.reverse ++ '\n' :: s.reverse := by simp
  rw [lastLine, hreverse, takeWhile_append_cons (by simp), lastLine]

theorem lastLine_append {s : Text} (h : s.getLast? = some '\n') (t : Text) :
    (s ++ t).lastLine = t.lastLine := by
  obtain ⟨finished, rfl⟩ := List.getLast?_eq_some_iff.mp h
  rw [List.append_assoc]
  exact lastLine_append_feed finished t

theorem lastColumn_append_feed (s t : Text) : (s ++ '\n' :: t).lastColumn = t.lastColumn := by
  rw [← length_lastLine, lastLine_append_feed, length_lastLine]

theorem lastLine_append_of_not_mem {t : Text} (h : '\n' ∉ t) (s : Text) :
    (s ++ t).lastLine = s.lastLine ++ t := by
  have hall : ∀ c ∈ t.reverse, decide (c ≠ '\n') = true := by
    intro c hc
    simpa using ne_of_mem_of_not_mem (List.mem_reverse.mp hc) h
  rw [lastLine, List.reverse_append, List.takeWhile_append_of_pos hall, List.reverse_append,
    List.reverse_reverse, lastLine]

theorem lastColumn_append_of_not_mem {t : Text} (h : '\n' ∉ t) (s : Text) :
    (s ++ t).lastColumn = s.lastColumn + t.length := by
  rw [← length_lastLine, lastLine_append_of_not_mem h, List.length_append, length_lastLine]

end Text

namespace Styled

theorem length_blanks (n : Nat) : List.length (blanks n) = n := List.length_replicate

theorem size_blanks (n : Nat) : Text.size (blanks n) = n := by
  induction n with
  | zero => rfl
  | succ n ih =>
    have hspace : ' '.utf8Size = 1 := by decide
    calc Text.size (blanks (n + 1)) = ' '.utf8Size + Text.size (blanks n) := rfl
      _ = n + 1 := by omega

end Styled

namespace CommandLine

/-- The difference of two numbers, if it is not below zero. -/
def difference? (m n : Nat) : Option Nat := if n ≤ m then some (m - n) else none

/-- An option in a usage text: what stands in front of the description, and the lines of
the description. -/
structure Entry where
  front : Text
  lines : List Text
deriving DecidableEq, Repr

namespace Entry

/-- What stands in front of a line of the description. -/
def upTo (column : Nat) (e : Entry) (lines : List Text) : Text :=
  e.front ++ lines.flatMap (· ++ '\n' :: Styled.blanks column)

def text (column : Nat) (e : Entry) : Text :=
  e.front ++ Text.join ('\n' :: Styled.blanks column) e.lines ++ ['\n']

end Entry

/-- A line of a description and all that is written before it. -/
inductive DescriptionAt (column : Nat) (heading : Text) (entries : List Entry) :
    Text → Text → Prop where
  | mk {es more : List Entry} {e : Entry} {lines rest : List Text} {line : Text}
      (hentries : entries = es ++ e :: more) (hlines : e.lines = lines ++ line :: rest) :
      DescriptionAt column heading entries
        (heading ++ es.flatMap (Entry.text column) ++ e.upTo column lines) line

namespace Template

/-! ## The text with its differences checked -/

def heading (t : Template) (program : Text) : Styled :=
  [.reset, .text (t.header ++ "\n\nUSAGE:\n".toList), .text (Styled.blanks indentation),
    .text (program ++ " [OPTIONS] files...\n\nOPTIONS:\n".toList)]

def ending (t : Template) : Styled := [.reset, .text (['\n'] ++ t.trailer ++ ['\n'])]

def shortPieces? (t : Template) (s : Switch) : Option Styled :=
  match s.short with
  | some short => do
      let n ← difference? t.columns.short short.size
      some [.text (short ++ [',']), .text (Styled.blanks (n + 1))]
  | none => some [.text (Styled.blanks (t.columns.short + 2))]

def gap? (t : Template) (width : Nat) (s : Switch) : Option Styled :=
  let column := t.descriptionColumn width
  let reached := indentation + t.columns.short + 2 + s.longText.size
  if column ≤ reached then some [.text ['\n'], .text (Styled.blanks column)]
  else (difference? column reached).map fun n => [.text (Styled.blanks n)]

def switchPieces? (t : Template) (width : Nat) (s : Switch) : Option Styled := do
  let column := t.descriptionColumn width
  let short ← t.shortPieces? s
  let gap ← t.gap? width s
  let left ← difference? width column
  some ([.text (Styled.blanks indentation), .color .primary] ++ short ++ [.text s.longText]
    ++ gap ++ [.color .secondary] ++ descriptionPieces column (Text.wrap left s.description))

/-- The usage text, if no number that it is laid out with is below zero. -/
def usage? (t : Template) (program : Text) (width : Nat) : Option Styled := do
  let entries ← t.switches.mapM (t.switchPieces? width)
  some (t.heading program ++ entries.flatten ++ t.ending)

end Template

variable {t : Template} {s : Switch} {width column : Nat} {line : Text} {lines : List Text}

theorem difference?_of_le {m n : Nat} (h : n ≤ m) : difference? m n = some (m - n) := if_pos h

theorem le_foldl_max {n : Nat} {ns : List Nat} (h : n ∈ ns) (start : Nat) :
    n ≤ ns.foldl max start := by
  have hstart : ∀ (ns : List Nat) start, start ≤ ns.foldl max start := by
    intro ns
    induction ns with
    | nil => exact fun start => Nat.le_refl start
    | cons m ns ih => exact fun start => (Nat.le_max_left start m).trans (ih _)
  induction ns generalizing start with
  | nil => simp at h
  | cons m ns ih =>
    rcases List.mem_cons.mp h with rfl | h
    · exact (Nat.le_max_right start n).trans (hstart ns _)
    · exact ih h _

theorem mapM_eq_some_map {α β : Type} {f : α → Option β} {g : α → β} {l : List α}
    (h : ∀ a ∈ l, f a = some (g a)) : l.mapM f = some (l.map g) := by
  induction l with
  | nil => rfl
  | cons a l ih =>
    rw [List.forall_mem_cons] at h
    rw [List.mapM_cons, h.1, ih h.2]
    rfl

namespace Template

/-- Descriptions start in the left half of the terminal. -/
theorem descriptionColumn_le_half (t : Template) (width : Nat) :
    t.descriptionColumn width ≤ width / 2 := Nat.min_le_right _ _

theorem descriptionColumn_le (t : Template) (width : Nat) :
    t.descriptionColumn width ≤ width :=
  (t.descriptionColumn_le_half width).trans (Nat.div_le_self width 2)

theorem size_le_columns_short {short : Text} (hs : s ∈ t.switches) (hshort : s.short = some short) :
    short.size ≤ t.columns.short := by
  have hmem : s.shortSize ∈ t.switches.map Switch.shortSize := List.mem_map_of_mem hs
  calc short.size = s.shortSize := by simp [Switch.shortSize, hshort]
    _ ≤ t.columns.short := le_foldl_max hmem 0

theorem shortPieces?_eq (hs : s ∈ t.switches) : t.shortPieces? s = some (t.shortPieces s) := by
  cases hshort : s.short with
  | none => simp [shortPieces?, shortPieces, hshort]
  | some short =>
    simp [shortPieces?, shortPieces, hshort, difference?_of_le (size_le_columns_short hs hshort)]

theorem gap?_eq (t : Template) (width : Nat) (s : Switch) :
    t.gap? width s = some (t.gap width s) := by
  by_cases hcolumn : t.descriptionColumn width ≤
      indentation + t.columns.short + 2 + s.longText.size
  · simp [gap?, gap, hcolumn]
  · simp [gap?, gap, hcolumn, difference?_of_le (Nat.le_of_not_le hcolumn)]

theorem switchPieces?_eq (hs : s ∈ t.switches) (width : Nat) :
    t.switchPieces? width s = some (t.switchPieces width s) := by
  simp [switchPieces?, switchPieces, shortPieces?_eq hs, gap?_eq,
    difference?_of_le (t.descriptionColumn_le width)]

/-- No padding of a usage text is below zero. -/
theorem usage?_eq (t : Template) (program : Text) (width : Nat) :
    t.usage? program width = some (t.usage program width) := by
  have hentries := mapM_eq_some_map fun s (hs : s ∈ t.switches) => switchPieces?_eq hs width
  rw [usage?, hentries]
  rfl

/-! ## Entries -/

/-- The indented names of an option, up to where its long name ends. -/
def label (t : Template) (s : Switch) : Text :=
  Styled.blanks indentation ++ Styled.plain (t.shortPieces s) ++ s.longText

def entry (t : Template) (width : Nat) (s : Switch) : Entry where
  front := t.label s ++ Styled.plain (t.gap width s)
  lines := Text.wrap (width - t.descriptionColumn width) s.description

theorem plain_descriptionPieces (hlines : lines ≠ []) :
    Styled.plain (descriptionPieces column lines) =
      Text.join ('\n' :: Styled.blanks column) lines ++ ['\n'] := by
  obtain ⟨first, rest, rfl⟩ := List.exists_cons_of_ne_nil hlines
  induction rest generalizing first with
  | nil => simp [descriptionPieces, Text.join]
  | cons next rest ih =>
    have hnext := ih next (List.cons_ne_nil _ _)
    simp only [descriptionPieces, Styled.plain_text_cons] at hnext
    simp [descriptionPieces, Text.join, ← hnext]

theorem plain_switchPieces (t : Template) (width : Nat) (s : Switch) :
    Styled.plain (t.switchPieces width s) =
      (t.entry width s).text (t.descriptionColumn width) := by
  have hlines := Text.wrap_ne_nil (width - t.descriptionColumn width) s.description
  simp [switchPieces, Styled.plain_append, plain_descriptionPieces hlines, Entry.text, entry,
    label]

theorem plain_usage (t : Template) (program : Text) (width : Nat) :
    Styled.plain (t.usage program width) = Styled.plain (t.heading program) ++
      (t.switches.map (t.entry width)).flatMap (Entry.text (t.descriptionColumn width)) ++
        Styled.plain t.ending := by
  have hentries : Styled.plain (t.switches.flatMap (t.switchPieces width)) =
      (t.switches.map (t.entry width)).flatMap (Entry.text (t.descriptionColumn width)) := by
    rw [Styled.plain_flatMap, List.flatMap_map]
    exact List.flatMap_congr fun s _ => t.plain_switchPieces width s
  rw [← hentries, ← Styled.plain_append, ← Styled.plain_append]
  rfl

/-! ## Columns -/

/-- What stands in front of the long name of an option. -/
def margin (t : Template) (s : Switch) : Text :=
  Styled.blanks indentation ++ Styled.plain (t.shortPieces s)

theorem label_eq (t : Template) (s : Switch) : t.label s = t.margin s ++ s.longText := rfl

/-- A short name is as wide as the column for short names says. -/
theorem size_margin (hs : s ∈ t.switches) :
    (t.margin s).size = indentation + t.columns.short + 2 := by
  have hcomma : ','.utf8Size = 1 := by decide
  cases hshort : s.short with
  | none =>
    simp [margin, shortPieces, hshort, Styled.size_blanks]
    omega
  | some short =>
    have hle := size_le_columns_short hs hshort
    simp [margin, shortPieces, hshort, Styled.size_blanks]
    omega

/-- The names of an option are as wide as the columns for them say. -/
theorem size_label (hs : s ∈ t.switches) :
    (t.label s).size = indentation + t.columns.short + 2 + s.longText.size := by
  rw [label_eq, Text.size_append, size_margin hs]

/-- Names that reach the description column have their description on the next line. -/
theorem front_of_le (hs : s ∈ t.switches) (h : t.descriptionColumn width ≤ (t.label s).size) :
    (t.entry width s).front =
      t.label s ++ '\n' :: Styled.blanks (t.descriptionColumn width) := by
  rw [size_label hs] at h
  simp [entry, gap, h]

theorem front_of_lt (hs : s ∈ t.switches) (h : (t.label s).size < t.descriptionColumn width) :
    (t.entry width s).front =
      t.label s ++ Styled.blanks (t.descriptionColumn width - (t.label s).size) := by
  rw [size_label hs] at h ⊢
  simp [entry, gap, Nat.not_le.mpr h]

/-- A description does not start behind its column. -/
theorem lastColumn_front_le (hs : s ∈ t.switches) (width : Nat) :
    Text.lastColumn (t.entry width s).front ≤ t.descriptionColumn width := by
  rcases Nat.lt_or_ge (t.label s).size (t.descriptionColumn width) with hlt | hle
  · have hlabel := Text.length_le_size (t.label s)
    calc Text.lastColumn (t.entry width s).front
        ≤ (t.entry width s).front.length := Text.lastColumn_le_length _
      _ = (t.label s).length + (t.descriptionColumn width - (t.label s).size) := by
          rw [front_of_lt hs hlt, List.length_append, Styled.length_blanks]
      _ ≤ t.descriptionColumn width := by omega
  · rw [front_of_le hs hle, Text.lastColumn_append_feed]
    exact (Text.lastColumn_le_length _).trans (Styled.length_blanks _).le

end Template

/-! ## Lines of descriptions -/

namespace Entry

/-- A line of a description is in its entry, behind what is said to be before it. -/
theorem upTo_append_isPrefix {e : Entry} {rest : List Text}
    (hlines : e.lines = lines ++ line :: rest) (column : Nat) :
    e.upTo column lines ++ line ++ ['\n'] <+: e.text column := by
  rw [text, hlines, Text.join_append_cons, Text.join_cons, upTo]
  cases rest with
  | nil => simp
  | cons next rest => simp [List.append_assoc]

theorem getLast?_append_flatMap_text {before : Text} (h : before.getLast? = some '\n')
    (column : Nat) (es : List Entry) :
    (before ++ es.flatMap (Entry.text column)).getLast? = some '\n' := by
  induction es generalizing before with
  | nil => simpa using h
  | cons e es ih =>
    rw [List.flatMap_cons, ← List.append_assoc]
    exact ih (by simp [text])

/-- On its line, a line of a description has in front of it what the first one has, or the
spaces up to its column. -/
theorem lastLine_append_upTo {before : Text} (hbefore : before.getLast? = some '\n')
    (column : Nat) (e : Entry) (lines : List Text) :
    Text.lastLine (before ++ e.upTo column lines) = e.front.lastLine ∨
      Text.lastLine (before ++ e.upTo column lines) = (Styled.blanks column).lastLine := by
  rw [Text.lastLine_append hbefore, upTo]
  rcases List.eq_nil_or_concat lines with rfl | ⟨finished, last, rfl⟩
  · exact .inl (by simp)
  · have hsplit : e.front ++ (finished.concat last).flatMap (· ++ '\n' :: Styled.blanks column) =
        e.front ++ finished.flatMap (· ++ '\n' :: Styled.blanks column) ++ last ++
          '\n' :: Styled.blanks column := by simp
    rw [hsplit, Text.lastLine_append_feed]
    exact .inr rfl

/-- A line of a description does not start behind its column. -/
theorem lastColumn_append_upTo_le {before : Text} (hbefore : before.getLast? = some '\n')
    {e : Entry} (hfront : e.front.lastColumn ≤ column) (lines : List Text) :
    Text.lastColumn (before ++ e.upTo column lines) ≤ column := by
  rw [← Text.length_lastLine]
  rcases lastLine_append_upTo hbefore column e lines with h | h
  · rwa [h, Text.length_lastLine]
  · rw [h, Text.length_lastLine]
    exact (Text.lastColumn_le_length _).trans (Styled.length_blanks column).le

end Entry

namespace Template

theorem getLast?_heading (t : Template) (program : Text) :
    (Styled.plain (t.heading program)).getLast? = some '\n' := by
  simp [heading, List.getLast?_cons, List.getLast?_append]

/-- What is said to be before a line of a description is what a usage text starts with. -/
theorem description_isPrefix {program before : Text}
    (h : DescriptionAt (t.descriptionColumn width) (Styled.plain (t.heading program))
      (t.switches.map (t.entry width)) before line) :
    before ++ line ++ ['\n'] <+: Styled.plain (t.usage program width) := by
  obtain ⟨hentries, hlines⟩ := h
  have hentry := Entry.upTo_append_isPrefix hlines (t.descriptionColumn width)
  rw [plain_usage, hentries]
  simpa [List.append_assoc] using hentry.trans (List.prefix_append _ _)

/-- No number that a usage text is laid out with is below zero. The descriptions start in the
left half of the terminal and are shown in full, in the order of the options. No line of them
starts behind their column or is wider than the terminal leaves it, so none reaches past the
width of the terminal. -/
theorem usage_fits_width (t : Template) (program : Text) (width : Nat) :
    let column := t.descriptionColumn width
    let heading := Styled.plain (t.heading program)
    let entries := t.switches.map (t.entry width)
    t.usage? program width = some (t.usage program width) ∧
    column ≤ width / 2 ∧
    Styled.plain (t.usage program width) =
      heading ++ entries.flatMap (Entry.text column) ++ Styled.plain t.ending ∧
    (∀ s, Text.ink (t.entry width s).lines.flatten = Text.ink s.description) ∧
    ∀ before line, DescriptionAt column heading entries before line →
      before ++ line ++ ['\n'] <+: Styled.plain (t.usage program width) ∧ '\n' ∉ line ∧
      Text.lastColumn before ≤ column ∧
      (0 < width → line.length ≤ width - column ∧ Text.lastColumn (before ++ line) ≤ width) := by
  intro column heading entries
  have hplain := t.plain_usage program width
  refine ⟨t.usage?_eq program width, t.descriptionColumn_le_half width, hplain,
    fun s => Text.ink_flatten_wrap _ _, ?_⟩
  rintro _ line @⟨es, more, e, lines, rest, _, hentries, hlines⟩
  have he : e ∈ entries := by simp [hentries]
  obtain ⟨s, hs, rfl⟩ := List.mem_map.mp he
  have hwrap : Text.wrap (width - column) s.description = lines ++ line :: rest := hlines
  have hline : line ∈ Text.wrap (width - column) s.description := by simp [hwrap]
  obtain ⟨hle, hfeed, -⟩ := Text.bounds_of_mem_wrap hline
  have hhead := Entry.getLast?_append_flatMap_text (t.getLast?_heading program) column es
  have hstart : Text.lastColumn (heading ++ es.flatMap (Entry.text column) ++
      (t.entry width s).upTo column lines) ≤ column :=
    Entry.lastColumn_append_upTo_le hhead (lastColumn_front_le hs width) lines
  refine ⟨description_isPrefix (.mk hentries hlines), hfeed, hstart, fun hwidth => ?_⟩
  have hhalf : column ≤ width / 2 := t.descriptionColumn_le_half width
  have hfits : line.length ≤ width - column := by omega
  rw [Text.lastColumn_append_of_not_mem hfeed]
  omega

/-- On a narrow terminal, the second line of the description of an option that has no short
name and is not ASCII. -/
theorem usage_fits_width_of_twelve :
    let s : Switch := { long := "--maß".toList, parameter := some "<n>".toList,
                        description := "Breite und Höhe".toList }
    let t : Template := { switches := [s] }
    let program := "prog".toList
    let column := t.descriptionColumn 12
    let heading := Styled.plain (t.heading program)
    let before := heading ++ (t.entry 12 s).front ++ "Breite\n      ".toList
    column = 6 ∧ DescriptionAt column heading [t.entry 12 s] before "und".toList ∧
    before ++ "und".toList ++ ['\n'] <+: Styled.plain (t.usage program 12) ∧ 0 < 12 ∧
    Text.lastColumn (before ++ "und".toList) ≤ 12 := by
  intro s t program column heading before
  have hlines : (t.entry 12 s).lines =
      ["Breite".toList] ++ "und".toList :: ["Höhe".toList] := by decide
  have hbefore : before = heading ++ ([] : List Entry).flatMap (Entry.text column) ++
      (t.entry 12 s).upTo column ["Breite".toList] := by decide
  have hat : DescriptionAt column heading [t.entry 12 s] before "und".toList :=
    hbefore ▸ .mk (List.nil_append _).symm hlines
  obtain ⟨-, -, -, -, hdescriptions⟩ := usage_fits_width t program 12
  obtain ⟨hwritten, -, -, hfits⟩ := hdescriptions before _ hat
  exact ⟨by decide, hat, hwritten, by decide, (hfits (by decide)).2⟩

end Template
end CommandLine
end LexScan
