import LexScan.Proofs.ItemUses

/-!
# Command lines by what they say

A command line is written as a row of occurrences: flags, options with a value, and
positional items. An option goes by its long name or its short one, and its value stands
in the next item or behind an equals sign. Parsing finds what was written, whatever the
values look like: it depends on nothing but the meanings of the occurrences, and the last
occurrence of an option gives its value.

The names of a template have to be told apart from each other and from values, which is
what `Regular` asks for.
-/

namespace LexScan.CommandLine

def Switch.names (s : Switch) : List Text := s.long :: s.short.toList

theorem Switch.hasName_iff {s : Switch} {name : Text} :
    s.hasName name = true ↔ name ∈ s.names := by
  simp only [hasName, names, Bool.or_eq_true, decide_eq_true_eq, List.mem_cons,
    Option.mem_toList]
  exact or_congr_left eq_comm

namespace Template

/-- All names of a template, long and short. -/
def names (t : Template) : List Text := t.switches.flatMap Switch.names

/-- No two names are the same, and all of them start with a hyphen and contain no equals
sign. -/
structure Regular (t : Template) : Prop where
  nodup : t.names.Nodup
  hyphen : ∀ name ∈ t.names, name.head? = some '-'
  no_equals : ∀ name ∈ t.names, '=' ∉ name

/-- An item that names no option, also not by what stands before an equals sign in it. -/
def IsPositional (t : Template) (item : Text) : Prop :=
  item ∉ t.names ∧ (item.head? = some '-' → item.takeWhile (· ≠ '=') ∉ t.names)

instance (t : Template) (item : Text) : Decidable (t.IsPositional item) :=
  inferInstanceAs (Decidable (_ ∧ _))

theorem mem_names {t : Template} {s : Switch} {name : Text} (hs : s ∈ t.switches)
    (hname : s.hasName name = true) : name ∈ t.names :=
  List.mem_flatMap.mpr ⟨s, hs, Switch.hasName_iff.mp hname⟩

end Template

namespace Meaning

theorem valueOf?_eq_some_iff {m : Meaning} {long given : Text} :
    m.valueOf? long = some given ↔ m = .value long given := by
  cases m with
  | item positional => simp [valueOf?]
  | value name other => by_cases hname : name = long <;> simp [valueOf?, hname]

theorem valueOf?_eq_none_iff {m : Meaning} {long : Text} :
    m.valueOf? long = none ↔ ∀ given, m ≠ .value long given := by
  rw [Option.eq_none_iff_forall_ne_some]
  exact forall_congr' fun given => not_congr valueOf?_eq_some_iff

end Meaning

/-- One thing that is said on a command line. -/
inductive Occurrence (t : Template) where
  | flag (s : Switch) (name : Text) (hs : s ∈ t.switches) (hname : s.hasName name = true)
      (hflag : s.parameter = none)
  /-- An option with its value in the next item. -/
  | detached (s : Switch) (name value : Text) (hs : s ∈ t.switches)
      (hname : s.hasName name = true) (htakes : s.parameter ≠ none)
  /-- An option with its value behind an equals sign. -/
  | attached (s : Switch) (name value : Text) (hs : s ∈ t.switches)
      (hname : s.hasName name = true) (htakes : s.parameter ≠ none)
  | positional (item : Text) (hitem : t.IsPositional item)

namespace Occurrence

variable {t : Template}

/-- The items that an occurrence is written as. -/
def render : Occurrence t → List Text
  | flag _ name _ _ _ => [name]
  | detached _ name value _ _ _ => [name, value]
  | attached _ name value _ _ _ => [name ++ '=' :: value]
  | positional item _ => [item]

def meaning : Occurrence t → Meaning
  | flag s _ _ _ _ => .value s.long []
  | detached s _ value _ _ _ => .value s.long value
  | attached s _ value _ _ _ => .value s.long value
  | positional item _ => .item item

end Occurrence

/-! ## One occurrence -/

section

variable {name value : Text}

theorem splitItem_of_no_equals (h : '=' ∉ name) : splitItem name = (name, none) := by
  apply if_neg
  rintro ⟨_, hmem⟩
  exact h hmem

/-- The first equals sign is the one behind the name. -/
theorem splitItem_append (hhyphen : name.head? = some '-') (h : '=' ∉ name) :
    splitItem (name ++ '=' :: value) = (name, some value) := by
  have hrun : ∀ c ∈ name, decide (c ≠ '=') = true := by
    intro c hc
    simp only [decide_eq_true_eq]
    rintro rfl
    exact h hc
  have hhead : (name ++ '=' :: value).head? = some '-' ∧ '=' ∈ name ++ '=' :: value := by
    simp [List.head?_append, hhyphen]
  have htake : (name ++ '=' :: value).takeWhile (· ≠ '=') = name := by
    rw [List.takeWhile_append_of_pos hrun]
    simp
  have hdrop : (name ++ '=' :: value).dropWhile (· ≠ '=') = '=' :: value := by
    rw [List.dropWhile_append_of_pos hrun]
    simp
  rw [splitItem, if_pos hhead, htake, hdrop]
  rfl

theorem find?_hasName {switches : List Switch} (hnodup : (switches.flatMap Switch.names).Nodup)
    {s : Switch} (hs : s ∈ switches) (hname : s.hasName name = true) :
    switches.find? (·.hasName name) = some s := by
  induction switches with
  | nil => cases hs
  | cons first switches ih =>
    rw [List.flatMap_cons, List.nodup_append] at hnodup
    obtain ⟨_, hrest, hdisjoint⟩ := hnodup
    rcases List.mem_cons.mp hs with rfl | hs
    · exact List.find?_cons_of_pos hname
    · -- A name of a later option is not one of the first option.
      have hlater : name ∈ switches.flatMap Switch.names :=
        List.mem_flatMap.mpr ⟨s, hs, Switch.hasName_iff.mp hname⟩
      have hfirst : ¬ first.hasName name = true := by
        intro hboth
        exact hdisjoint name (Switch.hasName_iff.mp hboth) name hlater rfl
      simp only [List.find?_cons, hfirst]
      exact ih hrest hs

end

namespace Template

variable {t : Template}

theorem Regular.switch?_eq (h : t.Regular) {s : Switch} {name : Text} (hs : s ∈ t.switches)
    (hname : s.hasName name = true) : t.switch? name = some s :=
  find?_hasName h.nodup hs hname

theorem switch?_eq_none {name : Text} (h : name ∉ t.names) : t.switch? name = none := by
  rw [switch?, List.find?_eq_none]
  intro s hs hname
  exact h (mem_names hs hname)

/-- A positional item is split, if at all, at a place that names no option. -/
theorem IsPositional.switch?_eq_none {item : Text} (h : t.IsPositional item) :
    t.switch? (splitItem item).1 = none := by
  apply Template.switch?_eq_none
  rw [splitItem]
  split
  · next hsplit => exact h.2 hsplit.1
  · exact h.1

/-- An occurrence is used as what it was written for. -/
theorem Regular.exists_use (h : t.Regular) (o : Occurrence t) :
    ∃ u : Use, u.Fits t ∧ u.items = o.render ∧ u.meaning = o.meaning := by
  cases o with
  | flag s name hs hname hflag =>
    have hsplit := splitItem_of_no_equals (h.no_equals name (mem_names hs hname))
    have hfits : (Use.flag s name).Fits t :=
      .flag (by rw [hsplit, h.switch?_eq hs hname]) hflag (by rw [hsplit])
    exact ⟨_, hfits, rfl, rfl⟩
  | detached s name value hs hname htakes =>
    have hsplit := splitItem_of_no_equals (h.no_equals name (mem_names hs hname))
    have hfits : (Use.detached s name value).Fits t :=
      .detached (by rw [hsplit, h.switch?_eq hs hname]) htakes (by rw [hsplit])
    exact ⟨_, hfits, rfl, rfl⟩
  | attached s name value hs hname htakes =>
    have hmem := mem_names hs hname
    have hsplit : splitItem (name ++ '=' :: value) = (name, some value) :=
      splitItem_append (h.hyphen name hmem) (h.no_equals name hmem)
    have hfits : (Use.attached s (name ++ '=' :: value) value).Fits t :=
      .attached (by rw [hsplit, h.switch?_eq hs hname]) htakes (by rw [hsplit])
    exact ⟨_, hfits, rfl, rfl⟩
  | positional item hitem => exact ⟨.positional item, .positional hitem.switch?_eq_none, rfl, rfl⟩

/-- The first occurrence on a line is taken as what it means, and the items behind it are
parsed by themselves. -/
theorem Regular.parse_render_append (h : t.Regular) (o : Occurrence t) (items : List Text) :
    t.parse (o.render ++ items) = (t.parse items).map (Arguments.enter o.meaning) := by
  obtain ⟨u, hu, hitems, hmeaning⟩ := h.exists_use o
  rw [← hitems, ← hmeaning]
  exact parse_items_append hu items

/-! ## The whole line -/

/-- What is written is parsed as all that it means. -/
theorem Regular.parse_flatMap_render (h : t.Regular) (occurrences : List (Occurrence t)) :
    t.parse (occurrences.flatMap Occurrence.render) =
      .ok ((occurrences.map Occurrence.meaning).foldr Arguments.enter {}) := by
  induction occurrences with
  | nil => rfl
  | cons o occurrences ih =>
    rw [List.flatMap_cons, h.parse_render_append, ih]
    rfl

end Template

namespace Arguments

theorem rest_foldr_enter (meanings : List Meaning) :
    (meanings.foldr enter {}).rest = meanings.filterMap Meaning.item? := by
  rw [rest_foldr_enter_append, List.append_nil]

theorem value?_foldr_enter_eq_none_iff {meanings : List Meaning} {long : Text} :
    (meanings.foldr enter {}).value? long = none ↔ ∀ given, .value long given ∉ meanings := by
  induction meanings with
  | nil => simp [Arguments.value?]
  | cons m meanings ih =>
    rw [List.foldr_cons, value?_enter, Option.or_eq_none_iff, ih, Meaning.valueOf?_eq_none_iff]
    constructor
    · rintro ⟨hlater, hfirst⟩ given hmem
      rcases List.mem_cons.mp hmem with hm | hmem
      · exact hfirst given hm.symm
      · exact hlater given hmem
    · intro hnone
      constructor
      · exact fun given hmem => hnone given (List.mem_cons_of_mem m hmem)
      · rintro given rfl
        exact hnone given List.mem_cons_self

/-- An option has the value that it is given last. -/
theorem value?_foldr_enter_eq_some_iff {meanings : List Meaning} {long value : Text} :
    (meanings.foldr enter {}).value? long = some value ↔
      ∃ earlier later, meanings = earlier ++ .value long value :: later ∧
        ∀ other, .value long other ∉ later := by
  induction meanings with
  | nil => simp [Arguments.value?]
  | cons m meanings ih =>
    rw [List.foldr_cons, value?_enter, Option.or_eq_some_iff, ih,
      value?_foldr_enter_eq_none_iff, Meaning.valueOf?_eq_some_iff]
    constructor
    · rintro (⟨earlier, later, rfl, hlast⟩ | ⟨hlast, rfl⟩)
      · exact ⟨m :: earlier, later, rfl, hlast⟩
      · exact ⟨[], meanings, rfl, hlast⟩
    · rintro ⟨earlier, later, hsplit, hlast⟩
      cases earlier with
      | nil =>
        obtain ⟨rfl, rfl⟩ := List.cons.inj hsplit
        exact .inr ⟨hlast, rfl⟩
      | cons first earlier =>
        obtain ⟨rfl, rfl⟩ := List.cons.inj hsplit
        exact .inl ⟨earlier, later, rfl, hlast⟩

theorem has_foldr_enter_iff {meanings : List Meaning} {long : Text} :
    (meanings.foldr enter {}).has long = true ↔ ∃ value, .value long value ∈ meanings := by
  rw [Arguments.has, Option.isSome_iff_ne_none, ne_eq, value?_foldr_enter_eq_none_iff]
  simp

end Arguments

/-- A command line that is written for a template is parsed, and gives what it says: an
option has the value of its last occurrence, which is empty for a flag; the options that
occur are there and no others; and the positional items come in their order. All this
depends on what the occurrences mean and not on the names or the form in which they are
written. -/
theorem parseLine_render {t : Template} (h : t.Regular) (program : Text)
    (occurrences : List (Occurrence t)) :
    ∃ a, t.parseLine (program :: occurrences.flatMap Occurrence.render) = .ok a ∧
      (∀ long value, a.value? long = some value ↔
        ∃ earlier o later, occurrences = earlier ++ o :: later ∧
          o.meaning = .value long value ∧ ∀ p ∈ later, ∀ other, p.meaning ≠ .value long other) ∧
      (∀ long, a.has long = true ↔
        ∃ o ∈ occurrences, ∃ value, o.meaning = .value long value) ∧
      a.rest = occurrences.filterMap (·.meaning.item?) ∧
      ∀ others : List (Occurrence t),
        others.map Occurrence.meaning = occurrences.map Occurrence.meaning →
        t.parseLine (program :: others.flatMap Occurrence.render) = .ok a := by
  refine ⟨_, h.parse_flatMap_render occurrences, ?_, ?_, ?_, ?_⟩
  · intro long value
    rw [Arguments.value?_foldr_enter_eq_some_iff]
    constructor
    · rintro ⟨earlier, later, hsplit, hlast⟩
      obtain ⟨before, behind, rfl, rfl, hbehind⟩ := List.map_eq_append_iff.mp hsplit
      obtain ⟨o, after, rfl, ho, rfl⟩ := List.map_eq_cons_iff.mp hbehind
      refine ⟨before, o, after, rfl, ho, ?_⟩
      intro p hp other hmeaning
      exact hlast other (List.mem_map.mpr ⟨p, hp, hmeaning⟩)
    · rintro ⟨earlier, o, later, rfl, ho, hlast⟩
      refine ⟨earlier.map Occurrence.meaning, later.map Occurrence.meaning, by simp [ho], ?_⟩
      intro other hmem
      obtain ⟨p, hp, hmeaning⟩ := List.mem_map.mp hmem
      exact hlast p hp other hmeaning
  · intro long
    rw [Arguments.has_foldr_enter_iff]
    constructor
    · rintro ⟨value, hmem⟩
      obtain ⟨o, ho, hmeaning⟩ := List.mem_map.mp hmem
      exact ⟨o, ho, value, hmeaning⟩
    · rintro ⟨o, ho, value, hmeaning⟩
      exact ⟨value, List.mem_map.mpr ⟨o, ho, hmeaning⟩⟩
  · rw [Arguments.rest_foldr_enter, List.filterMap_map]
    rfl
  · intro others hmeanings
    rw [← hmeanings]
    exact h.parse_flatMap_render others

/-- A value that looks like a flag, one that starts with an equals sign, and a positional
item that looks like an option with a value. -/
theorem parseLine_render_lookalikes :
    let flag : Switch := { long := ['-', '-', 'f'], short := some ['-', 'f'] }
    let option : Switch :=
      { long := ['-', '-', 'o'], short := some ['-', 'o'], parameter := some ['p'] }
    let t : Template := { switches := [flag, option] }
    t.Regular ∧ ∃ a,
      t.parseLine [[], ['-', '-', 'o', '=', '=', 'x'], ['-', 'x', '=', 'y'], ['-', 'o'],
        ['-', 'f']] = .ok a ∧
      a.value? option.long = some ['-', 'f'] ∧ a.has flag.long = false ∧
      a.rest = [['-', 'x', '=', 'y']] := by
  intro flag option t
  have hregular : t.Regular := ⟨by decide, by decide, by decide⟩
  have hoption : option ∈ t.switches := by decide
  have htakes : option.parameter ≠ none := by decide
  let attached : Occurrence t :=
    .attached option ['-', '-', 'o'] ['=', 'x'] hoption (by decide) htakes
  let positional : Occurrence t := .positional ['-', 'x', '=', 'y'] (by decide)
  let detached : Occurrence t := .detached option ['-', 'o'] ['-', 'f'] hoption (by decide) htakes
  obtain ⟨a, hparse, hvalue, hhas, hrest, _⟩ :=
    parseLine_render hregular [] [attached, positional, detached]
  refine ⟨hregular, a, hparse, ?_, ?_, hrest⟩
  · exact (hvalue _ _).mpr ⟨[attached, positional], detached, [], rfl, rfl, fun _ h => by cases h⟩
  · rw [Bool.eq_false_iff]
    intro h
    obtain ⟨o, ho, value, hmeaning⟩ := (hhas _).mp h
    simp only [List.mem_cons, List.not_mem_nil, or_false] at ho
    rcases ho with rfl | rfl | rfl <;> cases hmeaning

end LexScan.CommandLine
