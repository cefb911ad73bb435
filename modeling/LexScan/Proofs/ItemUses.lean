import LexScan.CommandLine

/-!
# What the items of a command line are used as

Parsing goes through the items from the left. Each turn uses one or two of them: as a flag,
as an option with its value attached or in the next item, or as a positional item. A row of
uses takes up every item once and in order, and a template leaves no choice of it, even where
its names clash. Parsing stops only at an item that names an option and has a value which the
option does not take, or that stands last and lacks the value which it takes.

So a line can be cut between two uses, and what it gives is what its parts give.
-/

namespace LexScan.CommandLine

/-- What is said on a command line: the value of an option by its long name, or an item. -/
inductive Meaning where
  | value (long value : Text)
  | item (item : Text)
deriving DecidableEq, Repr

namespace Meaning

def item? : Meaning → Option Text
  | value _ _ => none
  | item positional => some positional

/-- The value that is said of the option with a given long name. -/
def valueOf? (long : Text) : Meaning → Option Text
  | value name given => if name = long then some given else none
  | item _ => none

end Meaning

/-- What is known after one more thing was said in front. -/
def Arguments.enter : Meaning → Arguments → Arguments
  | .value long value, a => a.give long value
  | .item item, a => { a with rest := item :: a.rest }

/-- What one item, or two in a row, are used as. -/
inductive Use where
  | flag (s : Switch) (item : Text)
  | attached (s : Switch) (item value : Text)
  | detached (s : Switch) (item value : Text)
  | positional (item : Text)
deriving DecidableEq, Repr

namespace Use

def items : Use → List Text
  | flag _ item => [item]
  | attached _ item _ => [item]
  | detached _ item value => [item, value]
  | positional item => [item]

def meaning : Use → Meaning
  | flag s _ => .value s.long []
  | attached s _ value => .value s.long value
  | detached s _ value => .value s.long value
  | positional item => .item item

/-- The use that a template has for the items, whatever follows them. -/
inductive Fits (t : Template) : Use → Prop where
  | flag {s : Switch} {item : Text} (hs : t.switch? (splitItem item).1 = some s)
      (hflag : s.parameter = none) (halone : (splitItem item).2 = none) :
      Fits t (.flag s item)
  | attached {s : Switch} {item value : Text} (hs : t.switch? (splitItem item).1 = some s)
      (htakes : s.parameter ≠ none) (hvalue : (splitItem item).2 = some value) :
      Fits t (.attached s item value)
  | detached {s : Switch} {item value : Text} (hs : t.switch? (splitItem item).1 = some s)
      (htakes : s.parameter ≠ none) (halone : (splitItem item).2 = none) :
      Fits t (.detached s item value)
  | positional {item : Text} (hnone : t.switch? (splitItem item).1 = none) :
      Fits t (.positional item)

end Use

namespace Template

/-- The uses are those of the template and take up the items, each of them once and in their
order. -/
structure Reads (t : Template) (items : List Text) (uses : List Use) : Prop where
  fits : ∀ u ∈ uses, u.Fits t
  items_eq : uses.flatMap Use.items = items

/-- Items of which the first has no use, and why. -/
inductive Stops (t : Template) : List Text → Fault → Prop where
  | missing {s : Switch} {item : Text} (hs : t.switch? (splitItem item).1 = some s)
      (htakes : s.parameter ≠ none) (halone : (splitItem item).2 = none) :
      Stops t [item] (.missingValue s.long)
  | unexpected {s : Switch} {item value : Text} {more : List Text}
      (hs : t.switch? (splitItem item).1 = some s) (hflag : s.parameter = none)
      (hvalue : (splitItem item).2 = some value) :
      Stops t (item :: more) (.unexpectedValue s.long)

end Template

/-! ## What meanings come to -/

namespace Arguments

/-- A value given in front counts only if the option is not given again. -/
theorem value?_enter (m : Meaning) (a : Arguments) (long : Text) :
    (enter m a).value? long = (a.value? long).or (m.valueOf? long) := by
  cases m with
  | item positional => exact Option.or_none.symm
  | value name given =>
    have hgiven : (enter (.value name given) a).given.reverse =
        a.given.reverse ++ [(name, given)] := List.reverse_cons
    rw [Arguments.value?, hgiven, List.find?_append, Option.map_or]
    congr 1
    by_cases hname : name = long <;> simp [Meaning.valueOf?, hname]

theorem value?_foldr_enter (meanings : List Meaning) (a : Arguments) (long : Text) :
    (meanings.foldr enter a).value? long =
      (a.value? long).or ((meanings.foldr enter {}).value? long) := by
  induction meanings with
  | nil => exact Option.or_none.symm
  | cons m meanings ih =>
    rw [List.foldr_cons, List.foldr_cons, value?_enter, value?_enter, ih, Option.or_assoc]

theorem rest_foldr_enter_append (meanings : List Meaning) (a : Arguments) :
    (meanings.foldr enter a).rest = meanings.filterMap Meaning.item? ++ a.rest := by
  induction meanings with
  | nil => rfl
  | cons m meanings ih =>
    rw [List.foldr_cons]
    cases m with
    | value long value => exact ih
    | item item => exact congrArg (item :: ·) ih

end Arguments

/-! ## One use -/

variable {t : Template} {items more : List Text} {uses : List Use} {u u' : Use}
  {fault : Fault}

namespace Use

theorem items_ne_nil (u : Use) : u.items ≠ [] := by cases u <;> simp [items]

/-- What the first items are used as is told by the items. -/
theorem Fits.eq_of_append {more' : List Text} (h : u.Fits t) (h' : u'.Fits t)
    (heq : u.items ++ more = u'.items ++ more') : u = u' := by
  cases h <;> cases h' <;> grind [items]

end Use

namespace Template

/-- Items in front are taken as what they are used as, and those behind them are parsed by
themselves. -/
theorem parse_items_append (h : u.Fits t) (more : List Text) :
    t.parse (u.items ++ more) = (t.parse more).map (Arguments.enter u.meaning) := by
  cases h with
  | flag hs hflag halone =>
    simp only [Use.items, List.singleton_append, parse, hs, hflag, halone]
    rfl
  | attached hs htakes hvalue =>
    obtain ⟨shown, hshown⟩ := Option.ne_none_iff_exists'.mp htakes
    simp only [Use.items, List.singleton_append, parse, hs, hshown, hvalue]
    rfl
  | detached hs htakes halone =>
    obtain ⟨shown, hshown⟩ := Option.ne_none_iff_exists'.mp htakes
    simp only [Use.items, List.cons_append, List.nil_append, parse, hs, hshown, halone]
    rfl
  | positional hnone =>
    simp only [Use.items, List.singleton_append, parse, hnone]
    rfl

theorem Stops.parse_eq (h : t.Stops items fault) : t.parse items = .error fault := by
  cases h with
  | missing hs htakes halone =>
    obtain ⟨shown, hshown⟩ := Option.ne_none_iff_exists'.mp htakes
    simp only [parse, hs, hshown, halone]
  | unexpected hs hflag hvalue => simp only [parse, hs, hflag, hvalue]

/-- A value that is not taken is not taken whatever comes behind it. -/
theorem Stops.append {long : Text} (h : t.Stops items (.unexpectedValue long))
    (more : List Text) : t.Stops (items ++ more) (.unexpectedValue long) := by
  cases h with
  | unexpected hs hflag hvalue => exact .unexpected hs hflag hvalue

/-! ## All items -/

theorem parse_flatMap_append (h : ∀ u ∈ uses, u.Fits t) (more : List Text) :
    t.parse (uses.flatMap Use.items ++ more) =
      (t.parse more).map fun a => (uses.map Use.meaning).foldr Arguments.enter a := by
  induction uses with
  | nil => cases hmore : t.parse more <;> simp [hmore, Except.map]
  | cons u uses ih =>
    rw [List.forall_mem_cons] at h
    rw [List.flatMap_cons, List.append_assoc, parse_items_append h.1, ih h.2]
    cases t.parse more <;> rfl

theorem Reads.nil : t.Reads [] [] := ⟨by simp, rfl⟩

theorem Reads.cons (hu : u.Fits t) (h : t.Reads items uses) :
    t.Reads (u.items ++ items) (u :: uses) where
  fits := List.forall_mem_cons.mpr ⟨hu, h.fits⟩
  items_eq := by rw [List.flatMap_cons, h.items_eq]

theorem Reads.append {uses' : List Use} (h : t.Reads items uses) (h' : t.Reads more uses') :
    t.Reads (items ++ more) (uses ++ uses') where
  fits := List.forall_mem_append.mpr ⟨h.fits, h'.fits⟩
  items_eq := by rw [List.flatMap_append, h.items_eq, h'.items_eq]

theorem Reads.parse_append (h : t.Reads items uses) (more : List Text) :
    t.parse (items ++ more) =
      (t.parse more).map fun a => (uses.map Use.meaning).foldr Arguments.enter a := by
  rw [← h.items_eq, parse_flatMap_append h.fits]

theorem Reads.parse_eq (h : t.Reads items uses) :
    t.parse items = .ok ((uses.map Use.meaning).foldr Arguments.enter {}) := by
  have happend := h.parse_append []
  rwa [List.append_nil] at happend

theorem Reads.parse_of_stops (h : t.Reads items uses) (hstop : t.Stops more fault) :
    t.parse (items ++ more) = .error fault := by
  rw [h.parse_append, hstop.parse_eq]
  rfl

/-- There is one way at most to read the items. -/
theorem Reads.unique {uses' : List Use} (h : t.Reads items uses) (h' : t.Reads items uses') :
    uses' = uses := by
  induction uses generalizing items uses' with
  | nil =>
    obtain rfl : [] = items := h.items_eq
    cases uses' with
    | nil => rfl
    | cons u' uses' => exact absurd (List.append_eq_nil_iff.mp h'.items_eq).1 u'.items_ne_nil
  | cons u uses ih =>
    cases uses' with
    | nil =>
      obtain rfl : [] = items := h'.items_eq
      exact absurd (List.append_eq_nil_iff.mp h.items_eq).1 u.items_ne_nil
    | cons u' uses' =>
      obtain ⟨hu, huses⟩ := List.forall_mem_cons.mp h.fits
      obtain ⟨hu', huses'⟩ := List.forall_mem_cons.mp h'.fits
      have heq : u.items ++ uses.flatMap Use.items = u'.items ++ uses'.flatMap Use.items :=
        h.items_eq.trans h'.items_eq.symm
      obtain rfl : u = u' := hu.eq_of_append hu' heq
      rw [ih ⟨huses, rfl⟩ ⟨huses', (List.append_cancel_left heq).symm⟩]

/-- The items are read to their end or up to one at which parsing stops. -/
def ReadsUpToStop (t : Template) (items : List Text) : Prop :=
  ∃ front uses rest, items = front ++ rest ∧ t.Reads front uses ∧
    (rest = [] ∨ ∃ fault, t.Stops rest fault)

theorem ReadsUpToStop.cons (hu : u.Fits t) (h : t.ReadsUpToStop items) :
    t.ReadsUpToStop (u.items ++ items) := by
  obtain ⟨front, uses, rest, rfl, hreads, hrest⟩ := h
  exact ⟨u.items ++ front, u :: uses, rest, (List.append_assoc ..).symm, hreads.cons hu, hrest⟩

theorem readsUpToStop_of_stops (h : t.Stops items fault) : t.ReadsUpToStop items :=
  ⟨[], [], items, rfl, .nil, .inr ⟨fault, h⟩⟩

theorem readsUpToStop (t : Template) (items : List Text) : t.ReadsUpToStop items := by
  fun_induction t.parse items with
  | case1 => exact ⟨[], [], [], rfl, .nil, .inl rfl⟩
  | case2 item items hnone ih => exact ih.cons (.positional hnone)
  | case3 item s hs shown value items hvalue hshown ih =>
    exact ih.cons (.attached hs (by simp [hshown]) hvalue)
  | case4 item s hs shown value items halone hshown ih =>
    exact ih.cons (.detached hs (by simp [hshown]) halone)
  | case5 item s hs shown halone hshown =>
    exact readsUpToStop_of_stops (.missing hs (by simp [hshown]) halone)
  | case6 item items s hs value hvalue hflag =>
    exact readsUpToStop_of_stops (.unexpected hs hflag hvalue)
  | case7 item s hs items halone hflag ih => exact ih.cons (.flag hs hflag halone)

theorem exists_reads_of_parse_eq_ok {a : Arguments} (h : t.parse items = .ok a) :
    ∃ uses, t.Reads items uses ∧ a = (uses.map Use.meaning).foldr Arguments.enter {} := by
  obtain ⟨front, uses, rest, rfl, hreads, rfl | ⟨fault, hstop⟩⟩ := t.readsUpToStop items
  · rw [List.append_nil] at h ⊢
    exact ⟨uses, hreads, Except.ok.inj (h.symm.trans hreads.parse_eq)⟩
  · rw [hreads.parse_of_stops hstop] at h
    cases h

theorem exists_stops_of_parse_eq_error (h : t.parse items = .error fault) :
    ∃ front uses rest, items = front ++ rest ∧ t.Reads front uses ∧ t.Stops rest fault := by
  obtain ⟨front, uses, rest, rfl, hreads, rfl | ⟨fault', hstop⟩⟩ := t.readsUpToStop items
  · rw [List.append_nil, hreads.parse_eq] at h
    cases h
  · obtain rfl : fault' = fault :=
      Except.error.inj ((hreads.parse_of_stops hstop).symm.trans h)
    exact ⟨front, uses, rest, rfl, hreads, hstop⟩

end Template

/-- An item to which no value is attached is a name as it stands. -/
theorem splitItem_of_alone {item : Text} (h : (splitItem item).2 = none) :
    (splitItem item).1 = item := by
  rw [splitItem] at h ⊢
  split
  · next hsplit => simp [hsplit] at h
  · rfl

/-- Items behind others that can be parsed are parsed as if they stood alone, with the same
message if that fails. What both give together is the values of both, those given later
before those given earlier, and the positional items of the one and then of the other. For
the items in front are read in one way, each of them used once, and what they give is what
they are used as. If they cannot be parsed because an option has a value that it does not
take, nothing behind them changes that. If they cannot be parsed because an option lacks its
value, the last of them names it, and any one item more is taken as the value. -/
theorem parseLine_append (t : Template) (program : Text) (a b : List Text) :
    (∀ r, t.parseLine (program :: a) = .ok r →
      (∃ uses, (∀ us, t.Reads a us ↔ us = uses) ∧
        r = (uses.map Use.meaning).foldr Arguments.enter {}) ∧
      (∀ fault, t.parseLine (program :: b) = .error fault →
        t.parseLine (program :: (a ++ b)) = .error fault) ∧
      ∀ s, t.parseLine (program :: b) = .ok s →
        ∃ both, t.parseLine (program :: (a ++ b)) = .ok both ∧
          (∀ long, both.value? long = (s.value? long).or (r.value? long)) ∧
          both.rest = r.rest ++ s.rest) ∧
    (∀ long, t.parseLine (program :: a) = .error (.unexpectedValue long) →
      t.parseLine (program :: (a ++ b)) = .error (.unexpectedValue long)) ∧
    ∀ long, t.parseLine (program :: a) = .error (.missingValue long) →
      ∃ front item s, a = front ++ [item] ∧ t.switch? item = some s ∧ s.long = long ∧
        ∀ value, ∃ r, t.parseLine (program :: (a ++ [value])) = .ok r ∧
          r.value? long = some value := by
  refine ⟨fun r hr => ?_, fun long hlong => ?_, fun long hlong => ?_⟩
  · obtain ⟨uses, hreads, rfl⟩ := Template.exists_reads_of_parse_eq_ok hr
    have hboth : t.parse (a ++ b) = _ := hreads.parse_append b
    refine ⟨⟨uses, fun us => ⟨hreads.unique, fun h => h ▸ hreads⟩, rfl⟩, ?_, ?_⟩
    · intro fault hb
      rw [show t.parse b = .error fault from hb] at hboth
      exact hboth
    · intro s hs
      rw [show t.parse b = .ok s from hs] at hboth
      refine ⟨_, hboth, fun long => Arguments.value?_foldr_enter _ _ _, ?_⟩
      rw [Arguments.rest_foldr_enter_append, Arguments.rest_foldr_enter_append, List.append_nil]
  · obtain ⟨front, uses, rest, rfl, hreads, hstop⟩ :=
      Template.exists_stops_of_parse_eq_error hlong
    change t.parse (front ++ rest ++ b) = _
    rw [List.append_assoc]
    exact hreads.parse_of_stops (hstop.append b)
  · obtain ⟨front, uses, rest, rfl, hreads, hstop⟩ :=
      Template.exists_stops_of_parse_eq_error hlong
    cases hstop with
    | @missing s item hs htakes halone =>
      refine ⟨front, item, s, rfl, splitItem_of_alone halone ▸ hs, rfl, fun value => ?_⟩
      have hlast : t.parse [item, value] = .ok (Arguments.enter (.value s.long value) {}) :=
        Template.parse_items_append (.detached hs htakes halone) []
      have hall := hreads.parse_append [item, value]
      rw [hlast, ← List.singleton_append, ← List.append_assoc] at hall
      have hvalue : (Arguments.enter (.value s.long value) {}).value? s.long = some value := by
        rw [Arguments.value?_enter, Meaning.valueOf?, if_pos rfl]
        rfl
      refine ⟨_, hall, ?_⟩
      rw [Arguments.value?_foldr_enter, hvalue]
      rfl

/-- Two options go by one short name, a value looks like a flag, and an item with an equals
sign is positional. The line is cut behind the value, and its end is good, then bad; and the
option stands last. -/
theorem parseLine_append_among_lookalikes :
    let flag : Switch := { long := ['-', 'f'] }
    let option : Switch :=
      { long := ['-', 'o'], short := some ['-', 'x'], parameter := some ['p'] }
    let hidden : Switch := { long := ['-', 'h'], short := some ['-', 'x'] }
    let t : Template := { switches := [flag, option, hidden] }
    let front : List Text := [['-', 'x'], ['-', 'f'], ['a', '=', 'b']]
    (∃ r, t.parseLine ([] :: (front ++ [['-', 'o', '=', '=']])) = .ok r ∧
      r.value? option.long = some ['='] ∧ r.rest = [['a', '=', 'b']]) ∧
    t.parseLine ([] :: (front ++ [['-', 'f', '=']])) = .error (.unexpectedValue flag.long) ∧
    t.parseLine ([] :: ([['-', 'f', '=']] ++ front)) = .error (.unexpectedValue flag.long) ∧
    ∃ r, t.parseLine ([] :: ([['-', 'x']] ++ [['-', 'x']])) = .ok r ∧
      r.value? option.long = some ['-', 'x'] := by
  intro flag option hidden t front
  have hfront : t.parseLine ([] :: front) =
      .ok { given := [(option.long, flag.long)], rest := [['a', '=', 'b']] } := rfl
  refine ⟨?_, ?_, ?_, ?_⟩
  · obtain ⟨both, hboth, hvalues, hrest⟩ :=
      ((parseLine_append t [] front [['-', 'o', '=', '=']]).1 _ hfront).2.2
        { given := [(option.long, ['='])] } rfl
    exact ⟨both, hboth, hvalues option.long, hrest⟩
  · exact ((parseLine_append t [] front [['-', 'f', '=']]).1 _ hfront).2.1 _ rfl
  · exact (parseLine_append t [] [['-', 'f', '=']] front).2.1 _ rfl
  · obtain ⟨_, _, _, _, _, _, hvalue⟩ :=
      (parseLine_append t [] [['-', 'x']] []).2.2 option.long rfl
    exact hvalue ['-', 'x']

end LexScan.CommandLine
