import LexScan.Proofs.JsonUnambiguous
import LexScan.Proofs.Runs

/-!
# Reading JSON reports

The compact form of a value is a text of the grammar, and so the only value that it says is
the one that was rendered. Escapes leave no character below U+0020 in it. Of reports it says
nine things each, under the names of their fields, which is all there is to know about them.
-/

namespace LexScan

/-! ## Rendered values -/

theorem Text.head?_ofNat {n : Nat} (h : (ofNat n).head? = some '0') : ofNat n = ['0'] := by
  induction n using Nat.strong_induction_on with
  | _ n ih =>
    rcases Nat.lt_or_ge n 10 with hn | hn
    · rw [ofNat, Nat.toDigits_of_lt_base hn] at h ⊢
      exact congrArg (· :: []) (Option.some.inj h)
    · have hdigits : ofNat n = ofNat (n / 10) ++ [Nat.digitChar (n % 10)] :=
        Nat.toDigits_of_base_le (by decide) hn
      rw [hdigits, List.head?_append_of_ne_nil _ (ofNat_ne_nil (n / 10))] at h
      have hzero := congrArg (Nat.ofDigitChars 10 · 0) (ih (n / 10) (by omega) h)
      rw [ofDigitChars_ofNat] at hzero
      have : n / 10 = 0 := hzero
      omega

namespace JsonValue

open Json (IsNumber IsString IsBody IsForm Written)

mutual

/-- What a value says. -/
def data : JsonValue → Json
  | number n => .number n
  | string t => .string t
  | array items => .array (dataItems items)
  | object members => .object (dataMembers members)

def dataItems : List JsonValue → List Json
  | [] => []
  | item :: items => data item :: dataItems items

def dataMembers : List (Text × JsonValue) → List (Text × Json)
  | [] => []
  | (key, value) :: members => (key, data value) :: dataMembers members

end

theorem dataItems_eq_map (items : List JsonValue) : dataItems items = items.map data := by
  induction items with
  | nil => rfl
  | cons item items ih => rw [dataItems, ih, List.map_cons]

theorem isNumber_ofNat (n : Nat) : IsNumber (Text.ofNat n) n := by
  have hdigits : Token.IsDigits (Text.ofNat n) :=
    ⟨Text.ofNat_ne_nil n, fun _ => Text.isDigit_of_mem_ofNat⟩
  have h := IsNumber.mk (.inl rfl) hdigits Text.head?_ofNat .absent .absent
  have hvalue : Json.numberValue [] (Text.ofNat n) [] [] = n := by
    simp [Json.numberValue, Json.powerOf, Text.ofDigitChars_ofNat]
  rw [hvalue] at h
  simpa using h

theorem codeUnit?_unicodeEscape {n : Nat} (h : n < 0x20) :
    Json.codeUnit? ['0', '0', Nat.digitChar (n / 16), Nat.digitChar (n % 16)] = some n := by
  have hall : ∀ n < 0x20,
      Json.codeUnit? ['0', '0', Nat.digitChar (n / 16), Nat.digitChar (n % 16)] = some n := by
    decide
  exact hall n h

theorem isForm_escapedChar (c : Char) : IsForm (escapedChar c) c := by
  unfold escapedChar
  split_ifs with hquote hbackslash hb ht hn hf hr hcontrol
  · subst hquote
    exact .escape (.short rfl)
  · subst hbackslash
    exact .escape (.short rfl)
  · subst hb
    exact .escape (.short rfl)
  · subst ht
    exact .escape (.short rfl)
  · subst hn
    exact .escape (.short rfl)
  · subst hf
    exact .escape (.short rfl)
  · subst hr
    exact .escape (.short rfl)
  · exact .escape (.code (.unit (codeUnit?_unicodeEscape hcontrol)))
  · exact .plain hquote hbackslash (Nat.le_of_not_lt hcontrol)

theorem isString_renderString (t : Text) : IsString (renderString t) t := by
  have hbody : IsBody (t.flatMap escapedChar) t := by
    induction t with
    | nil => exact .nil
    | cons c t ih => exact .cons (isForm_escapedChar c) ih
  exact .mk hbody

/-- An element without white space around it. -/
theorem written_element {v : Json} {t : Text} (h : Written (.value v) t) :
    Written (.entry none v) t := by
  simpa using Written.element (List.forall_mem_nil _) h (List.forall_mem_nil _)

theorem written_member {v : Json} {t : Text} (key : Text) (h : Written (.value v) t) :
    Written (.entry (some key) v) (renderString key ++ ([':'] ++ t)) :=
  .member (List.forall_mem_nil _) (isString_renderString key) (List.forall_mem_nil _)
    (written_element h)

-- By the recursion of `render`: an element says its value, and the commas are where `Written`
-- has them, between two entries.
mutual

/-- The compact form of a value says what the value says. -/
theorem written_render : (v : JsonValue) → Written (.value v.data) v.render
  | number n => .number (isNumber_ofNat n)
  | string t => .string (isString_renderString t)
  | array items => .array (written_renderItems items)
  | object members => .object (written_renderMembers members)

theorem written_renderItems : (items : List JsonValue) →
    Written (.entries ((dataItems items).map (Prod.mk none))) (renderItems items)
  | [] => .none (List.forall_mem_nil _)
  | [item] => .last (written_element (written_render item))
  | item :: next :: items => by
      rw [renderItems, List.append_assoc]
      · exact .more (written_element (written_render item)) (written_renderItems (next :: items))
      · simp

theorem written_renderMembers : (members : List (Text × JsonValue)) →
    Written (.entries ((dataMembers members).map (Prod.map some id))) (renderMembers members)
  | [] => .none (List.forall_mem_nil _)
  | [(key, value)] => by
      rw [renderMembers, List.append_assoc]
      exact .last (written_member key (written_render value))
  | (key, value) :: next :: members => by
      rw [renderMembers, List.append_assoc (renderString key ++ [':'] ++ render value),
        List.append_assoc (renderString key)]
      · exact .more (written_member key (written_render value))
          (written_renderMembers (next :: members))
      · simp

end

/-- The compact form of a value says this and nothing else. -/
theorem isText_render_iff (v : JsonValue) {said : Json} :
    Json.IsText v.render said ↔ said = v.data := by
  have hwritten : Json.IsText v.render v.data := written_element (written_render v)
  constructor
  · exact fun h => h.unique hwritten
  · rintro rfl
    exact hwritten

/-! ## No characters below U+0020 -/

/-- Characters from U+0020 on. -/
def Visible (t : Text) : Prop := ∀ c ∈ t, 0x20 ≤ c.toNat

instance (t : Text) : Decidable (Visible t) :=
  List.decidableBAll (fun c : Char => 0x20 ≤ c.toNat) t

theorem visible_append {t u : Text} (ht : Visible t) (hu : Visible u) : Visible (t ++ u) :=
  List.forall_mem_append.mpr ⟨ht, hu⟩

theorem visible_ofNat (n : Nat) : Visible (Text.ofNat n) := by
  intro c hc
  have hdigit := Text.isDigit_of_mem_ofNat hc
  simp only [Char.isDigit, Bool.and_eq_true, decide_eq_true_eq] at hdigit
  have : (48 : Nat) ≤ c.toNat := hdigit.1
  omega

theorem visible_unicodeEscape {c : Char} (h : c.toNat < 0x20) : Visible (unicodeEscape c) := by
  have hall : ∀ n < 0x20,
      Visible ['\\', 'u', '0', '0', Nat.digitChar (n / 16), Nat.digitChar (n % 16)] := by
    decide
  exact hall c.toNat h

theorem visible_escapedChar (c : Char) : Visible (escapedChar c) := by
  unfold escapedChar
  split_ifs with _ _ _ _ _ _ _ hcontrol
  any_goals decide
  · exact visible_unicodeEscape hcontrol
  · exact List.forall_mem_singleton.mpr (Nat.le_of_not_lt hcontrol)

theorem visible_renderString (t : Text) : Visible (renderString t) := by
  refine visible_append (visible_append (by decide) ?_) (by decide)
  intro d hd
  obtain ⟨c, -, hc⟩ := List.mem_flatMap.mp hd
  exact visible_escapedChar c d hc

mutual

theorem visible_render : (v : JsonValue) → Visible v.render
  | number n => visible_ofNat n
  | string t => visible_renderString t
  | array items =>
      visible_append (visible_append (by decide) (visible_renderItems items)) (by decide)
  | object members =>
      visible_append (visible_append (by decide) (visible_renderMembers members)) (by decide)

theorem visible_renderItems : (items : List JsonValue) → Visible (renderItems items)
  | [] => List.forall_mem_nil _
  | [item] => visible_render item
  | item :: next :: items => by
      rw [renderItems]
      · exact visible_append (visible_append (visible_render item) (by decide))
          (visible_renderItems (next :: items))
      · simp

theorem visible_renderMembers : (members : List (Text × JsonValue)) →
    Visible (renderMembers members)
  | [] => List.forall_mem_nil _
  | [(key, value)] =>
      visible_append (visible_append (visible_renderString key) (by decide))
        (visible_render value)
  | (key, value) :: next :: members => by
      rw [renderMembers]
      · exact visible_append (visible_append (visible_append (visible_append
          (visible_renderString key) (by decide)) (visible_render value)) (by decide))
          (visible_renderMembers (next :: members))
      · simp

end

end JsonValue

/-! ## Reports -/

namespace Report

/-- What there is to know about a report: what each field holds, under its name. -/
def fields (r : Report) : List (Text × Json) :=
  [("name".toList, .string r.name), ("lines".toList, .number r.counts.lines),
    ("blankLines".toList, .number r.counts.blankLines),
    ("words".toList, .number r.counts.words), ("numbers".toList, .number r.counts.numbers),
    ("strings".toList, .number r.counts.strings),
    ("comments".toList, .number r.counts.comments),
    ("symbols".toList, .number r.counts.symbols),
    ("longestLine".toList, .number r.counts.longestLine)]

theorem data_toJson_injective : Function.Injective fun r : Report => (toJson r).data := by
  rintro ⟨name, counts⟩ ⟨name', counts'⟩ h
  simp only [toJson, JsonValue.data, JsonValue.dataMembers, Json.object.injEq, List.cons.injEq,
    Prod.mk.injEq, Json.string.injEq, Json.number.injEq, Nat.cast_inj, true_and, and_true] at h
  obtain ⟨hblank, hcomments, hlines, hlongest, rfl, hnumbers, hstrings, hsymbols, hwords⟩ := h
  rw [Counts.ext hlines hblank hwords hnumbers hstrings hcomments hsymbols hlongest]

/-- An object with what there is to know about a report, in some order, and no key twice. -/
structure Describes (members : List (Text × Json)) (r : Report) : Prop where
  perm_fields : members.Perm (fields r)
  nodup_keys : (members.map Prod.fst).Nodup

theorem nodup_keys_fields (r : Report) : ((fields r).map Prod.fst).Nodup := by
  have hkeys : ((fields ⟨[], {}⟩).map Prod.fst).Nodup := by decide
  exact hkeys

theorem exists_describes (r : Report) :
    ∃ members, Describes members r ∧ (toJson r).data = .object members := by
  -- Where the keys, in the order of their names, stand among the fields.
  have hindices : [2, 6, 1, 8, 0, 4, 5, 7, 3].Perm (List.range 9) := by decide
  have hperm := hindices.map fun i => (fields r).getD i ([], .null)
  have hkeys := (hperm.map Prod.fst).nodup_iff.mpr (nodup_keys_fields r)
  exact ⟨_, ⟨hperm, hkeys⟩, rfl⟩

theorem data_listToJson (reports : List Report) :
    (listToJson reports).data = .array (reports.map fun r => (toJson r).data) := by
  rw [listToJson, JsonValue.data, JsonValue.dataItems_eq_map, List.map_map]
  rfl

theorem exists_objects (reports : List Report) :
    ∃ objects, List.Forall₂ Describes objects reports ∧
      reports.map (fun r => (toJson r).data) = objects.map .object := by
  induction reports with
  | nil => exact ⟨[], .nil, rfl⟩
  | cons r reports ih =>
    obtain ⟨members, hmembers, hdata⟩ := exists_describes r
    obtain ⟨objects, hobjects, hmap⟩ := ih
    refine ⟨members :: objects, .cons hmembers hobjects, ?_⟩
    rw [List.map_cons, List.map_cons, hdata, hmap]

theorem listToJson_render_injective :
    Function.Injective fun reports : List Report => (listToJson reports).render := by
  intro reports others hsame
  have hsays : Json.IsText (listToJson reports).render (listToJson reports).data :=
    (JsonValue.isText_render_iff _).mpr rfl
  have hrender : (listToJson reports).render = (listToJson others).render := hsame
  rw [hrender, JsonValue.isText_render_iff, data_listToJson, data_listToJson] at hsays
  exact List.map_injective_iff.mpr data_toJson_injective (Json.array.inj hsays)

/-- With reports in JSON asked for, the failures of a run are shown first, and the rest of the
output is one text and a line feed. -/
theorem render_summary (mode : ColorMode) (results : List (Except Program.Failure Report)) :
    ∃ front, Styled.Coloured mode
        (Program.errorLines (results.map (·.mapError Program.Failure.message))) front ∧
      Styled.render mode (Program.summary true results) =
        front ++ ((listToJson (Program.reports results)).render ++ ['\n']) := by
  have hfront := Styled.coloured_render mode
    ((Program.failures results).flatMap fun f => Program.failureLine f.message)
  rw [← Program.errorLines_mapError] at hfront
  refine ⟨_, hfront, ?_⟩
  simp [Program.summary, Styled.render, Styled.renderPiece]

/-- Reports in JSON can be read back, whatever the names hold. The text has no character below
U+0020, so it is one line of the output. By the grammar it says one thing, which is an array of
one object for each report, in their order, with nine members that each say what the field
holds that they are named after. Different lists of reports do not come to the same text. -/
theorem json_determines_reports (reports : List Report) :
    let text := (listToJson reports).render
    (∀ c ∈ text, 0x20 ≤ c.toNat) ∧
    (∀ mode results, Program.reports results = reports →
      ∃ front, Styled.Coloured mode
          (Program.errorLines (results.map (·.mapError Program.Failure.message))) front ∧
        Styled.render mode (Program.summary true results) = front ++ (text ++ ['\n'])) ∧
    (∃ objects, List.Forall₂ Describes objects reports ∧
      ∀ v, Json.IsText text v ↔ v = .array (objects.map .object)) ∧
    ∀ others, (listToJson others).render = text → others = reports := by
  intro text
  obtain ⟨objects, hobjects, hdata⟩ := exists_objects reports
  refine ⟨JsonValue.visible_render _, ?_, ⟨objects, hobjects, ?_⟩, ?_⟩
  · rintro mode results rfl
    exact render_summary mode results
  · intro v
    rw [JsonValue.isText_render_iff, data_listToJson, hdata]
  · intro others hsame
    exact listToJson_render_injective hsame

/-- A name with a quote, a backslash, a line feed, a control character, a line separator and a
character outside the basic plane, and the largest count. -/
theorem json_determines_reports_of_escapes :
    let r : Report :=
      ⟨['"', '\\', '\n', '\x01', '\u2028', '😀'], { words := 18446744073709551615 }⟩
    let text := "[\x7b\"blankLines\":0,\"comments\":0,\"lines\":0,\"longestLine\":0,".toList
      ++ "\"name\":\"\\\"\\\\\\n\\u0001\u2028😀\",\"numbers\":0,\"strings\":0,".toList
      ++ "\"symbols\":0,\"words\":18446744073709551615\x7d]".toList
    (listToJson [r]).render = text ∧ '\n' ∉ text ∧
    (∃ members, Describes members r ∧
      ∀ v, Json.IsText text v ↔ v = .array [.object members]) ∧
    (listToJson []).render ≠ text := by
  intro r text
  have htext : (listToJson [r]).render = text := by decide +kernel
  obtain ⟨hvisible, -, ⟨objects, hobjects, hsays⟩, honly⟩ := json_determines_reports [r]
  rw [htext] at hvisible hsays honly
  refine ⟨htext, ?_, ?_, ?_⟩
  · intro hfeed
    exact absurd (hvisible '\n' hfeed) (by decide)
  · cases hobjects with
    | @cons members _ _ _ hmembers hnone =>
      cases hnone
      exact ⟨members, hmembers, hsays⟩
  · intro hsame
    cases honly [] hsame

end Report

end LexScan
