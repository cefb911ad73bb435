import LexScan.Proofs.JsonGrammar
import Mathlib.Data.List.Basic

/-!
# No text says two things

The first character of a value tells what kind of value it is, and what stands behind a value,
an entry or all entries of an array or an object cannot be taken for more of them: behind an
entry there is a comma or a bracket, and behind all entries a bracket. So of two phrases of
one sort that a text begins with, if each of them ends where it has to, both are the same.
-/

namespace LexScan

namespace Json

variable {b front front' back k r r' s t t' u : Text} {v v' : Json} {key : Option Text}
  {items : List Json} {members : List (Text × Json)}

/-! ## What the first character tells -/

/-- What a value is, as far as its first character tells. -/
inductive Kind where
  | null
  | bool (b : Bool)
  | number
  | string
  | array
  | object
deriving DecidableEq

def kind : Json → Kind
  | null => .null
  | bool b => .bool b
  | number _ => .number
  | string _ => .string
  | array _ => .array
  | object _ => .object

/-- The kind of the values that start with a character. -/
def kindOf? (c : Char) : Option Kind :=
  if c = '-' ∨ c.isDigit then some .number
  else if c = 'n' then some .null
  else if c = 't' then some (.bool true)
  else if c = 'f' then some (.bool false)
  else if c = '"' then some .string
  else if c = '[' then some .array
  else if c = '{' then some .object
  else none

theorem IsNumber.head {q : ℚ} (h : IsNumber t q) :
    ∃ c u, t = c :: u ∧ kindOf? c = some .number := by
  obtain ⟨hminus, hwhole, -, -, -⟩ := h
  rcases hminus with rfl | rfl
  · obtain ⟨d, more, rfl, hd⟩ := hwhole.exists_cons
    exact ⟨d, _, rfl, if_pos (.inr hd)⟩
  · exact ⟨'-', _, rfl, rfl⟩

theorem Written.head (h : Written (.value v) t) :
    ∃ c u, t = c :: u ∧ kindOf? c = some v.kind := by
  cases h with
  | bool b => cases b <;> exact ⟨_, _, rfl, rfl⟩
  | number h => exact h.head
  | string h =>
    obtain ⟨h⟩ := h
    exact ⟨'"', _, rfl, rfl⟩
  | _ => exact ⟨_, _, rfl, rfl⟩

theorem Written.kind_unique (h : Written (.value v) t) (h' : Written (.value v') t')
    (heq : t ++ r = t' ++ r') : v.kind = v'.kind := by
  obtain ⟨c, u, rfl, hc⟩ := h.head
  obtain ⟨c', u', rfl, hc'⟩ := h'.head
  obtain ⟨rfl, -⟩ := List.cons.inj heq
  exact Option.some.inj (hc.symm.trans hc')

/-! ## What stands behind a phrase -/

/-- A text that starts with one of some characters. -/
def StartsIn (cs : Text) (r : Text) : Prop := ∃ c u, r = c :: u ∧ c ∈ cs

/-- Behind an entry. -/
def entryEnds : Text := [',', ']', '}']

/-- Behind all entries. -/
def entriesEnds : Text := [']', '}']

theorem StartsIn.entry (h : StartsIn entriesEnds r) : StartsIn entryEnds r := by
  obtain ⟨c, u, rfl, hc⟩ := h
  exact ⟨c, u, rfl, List.mem_cons_of_mem ',' hc⟩

theorem startsIn_comma (u : Text) : StartsIn entryEnds (',' :: u) := ⟨',', u, rfl, by decide⟩

theorem takeWhile_of_startsIn {p : Char → Bool} {cs : Text} (h : StartsIn cs r)
    (hcs : cs.any p = false) : r.takeWhile p = [] := by
  obtain ⟨c, u, rfl, hc⟩ := h
  exact List.takeWhile_cons_of_neg (List.any_eq_false.mp hcs c hc)

theorem isBlank_of_kindOf? {c : Char} {k : Kind} (h : kindOf? c = some k) :
    isBlank c = false := by
  by_contra hblank
  simp only [isBlank, Bool.not_eq_false, Bool.or_eq_true, beq_iff_eq] at hblank
  rcases hblank with ((rfl | rfl) | rfl) | rfl <;> cases h

theorem isNumberPart_of_isBlank {c : Char} (h : isBlank c = true) :
    Token.isNumberPart c = false := by
  simp only [isBlank, Bool.or_eq_true, beq_iff_eq] at h
  rcases h with ((rfl | rfl) | rfl) | rfl <;> rfl

/-- White space that a text starts with ends where a value begins. -/
theorem takeWhile_of_written (h : Written (.value v) t) (r : Text) :
    (t ++ r).takeWhile isBlank = [] := by
  obtain ⟨c, u, rfl, hc⟩ := h.head
  exact List.takeWhile_cons_of_neg (by simp [isBlank_of_kindOf? hc])

/-- White space in front of values is told by the text. -/
theorem eq_of_fronts (hfront : IsBlank front) (hfront' : IsBlank front')
    (h : Written (.value v) t) (h' : Written (.value v') t')
    (heq : front ++ (t ++ r) = front' ++ (t' ++ r')) : front = front' ∧ t ++ r = t' ++ r' :=
  eq_of_stretches hfront hfront' (takeWhile_of_written h r) (takeWhile_of_written h' r') heq

/-- A number does not go on in white space and what may stand behind it. -/
theorem takeWhile_behind_value {cs : Text} (hb : IsBlank b) (hr : StartsIn cs r)
    (hcs : cs.any Token.isNumberPart = false) :
    (b ++ r).takeWhile Token.isNumberPart = [] := by
  cases b with
  | nil => exact takeWhile_of_startsIn hr hcs
  | cons c b =>
    have hc := isNumberPart_of_isBlank (hb c List.mem_cons_self)
    exact List.takeWhile_cons_of_neg (by simp [hc])

/-! ## No text says two things -/

/-- A phrase is the only one of its sort that a text can begin with where it does, provided
that something stands behind it that ends it. -/
def Phrase.Unique : Phrase → Text → Prop
  | .value v, t => ∀ {v' t' r r'}, Written (.value v') t' →
      r.takeWhile Token.isNumberPart = [] → r'.takeWhile Token.isNumberPart = [] →
      t ++ r = t' ++ r' → v = v' ∧ t = t'
  | .entry key v, t => ∀ {key' v' t' r r'}, Written (.entry key' v') t' →
      StartsIn entryEnds r → StartsIn entryEnds r' →
      t ++ r = t' ++ r' → key = key' ∧ v = v' ∧ t = t'
  | .entries es, t => ∀ {es' t' r r'}, Written (.entries es') t' →
      StartsIn entriesEnds r → StartsIn entriesEnds r' →
      t ++ r = t' ++ r' → es = es' ∧ t = t'

/-! ### Values -/

theorem unique_null : (Phrase.value .null).Unique ['n', 'u', 'l', 'l'] := by
  intro v' t' r r' h' _ _ heq
  have hkind := Written.null.kind_unique h' heq
  cases h' with
  | null => exact ⟨rfl, rfl⟩
  | _ => cases hkind

theorem unique_bool (b : Bool) : (Phrase.value (.bool b)).Unique (boolText b) := by
  intro v' t' r r' h' _ _ heq
  have hkind := (Written.bool b).kind_unique h' heq
  cases h' with
  | bool =>
    obtain rfl := Kind.bool.inj hkind
    exact ⟨rfl, rfl⟩
  | _ => cases hkind

theorem unique_number {q : ℚ} (h : IsNumber t q) : (Phrase.value (.number q)).Unique t := by
  intro v' t' r r' h' hr hr' heq
  have hkind := (Written.number h).kind_unique h' heq
  cases h' with
  | number h' =>
    obtain ⟨rfl, -⟩ := eq_of_stretches h.isNumberPart h'.isNumberPart hr hr' heq
    exact ⟨congrArg Json.number (h.value_unique h' rfl), rfl⟩
  | _ => cases hkind

theorem unique_string (h : IsString t s) : (Phrase.value (.string s)).Unique t := by
  intro v' t' r r' h' _ _ heq
  have hkind := (Written.string h).kind_unique h' heq
  cases h' with
  | string h' =>
    obtain ⟨rfl, rfl⟩ := h.unique h' heq
    exact ⟨rfl, rfl⟩
  | _ => cases hkind

theorem unique_array (h : Written (.entries (items.map (Prod.mk none))) t)
    (hentries : (Phrase.entries (items.map (Prod.mk none))).Unique t) :
    (Phrase.value (.array items)).Unique ('[' :: (t ++ [']'])) := by
  intro v' t' r r' h' _ _ heq
  have hkind := (Written.array h).kind_unique h' heq
  cases h' with
  | @array t' items' h' =>
    have hinside : t ++ ']' :: r = t' ++ ']' :: r' := by simpa using heq
    obtain ⟨hitems, rfl⟩ :=
      hentries h' ⟨']', r, rfl, by decide⟩ ⟨']', r', rfl, by decide⟩ hinside
    obtain rfl := List.map_injective_iff.mpr (Prod.mk_right_injective none) hitems
    exact ⟨rfl, rfl⟩
  | _ => cases hkind

theorem unique_object (h : Written (.entries (members.map (Prod.map some id))) t)
    (hentries : (Phrase.entries (members.map (Prod.map some id))).Unique t) :
    (Phrase.value (.object members)).Unique ('{' :: (t ++ ['}'])) := by
  intro v' t' r r' h' _ _ heq
  have hkind := (Written.object h).kind_unique h' heq
  cases h' with
  | @object t' members' h' =>
    have hinside : t ++ '}' :: r = t' ++ '}' :: r' := by simpa using heq
    obtain ⟨hmembers, rfl⟩ :=
      hentries h' ⟨'}', r, rfl, by decide⟩ ⟨'}', r', rfl, by decide⟩ hinside
    have hinjective := (Option.some_injective Text).prodMap (Function.injective_id (α := Json))
    obtain rfl := List.map_injective_iff.mpr hinjective hmembers
    exact ⟨rfl, rfl⟩
  | _ => cases hkind

/-! ### Entries -/

/-- What has a colon behind its key is no element. -/
theorem key_ne_value {gap w : Text} (hkey : IsString k s) (hgap : IsBlank gap)
    (h : Written (.value v) t) (hback : IsBlank back) (hr : StartsIn entryEnds r) :
    k ++ (gap ++ ':' :: w) ≠ t ++ (back ++ r) := by
  intro heq
  have hkind := (Written.string hkey).kind_unique h heq
  cases h with
  | string h =>
    obtain ⟨-, rfl⟩ := hkey.unique h heq
    obtain ⟨-, hbehind⟩ := eq_of_stretches hgap hback rfl
      (takeWhile_of_startsIn hr rfl) (List.append_cancel_left heq)
    obtain ⟨c, u, rfl, hc⟩ := hr
    obtain ⟨rfl, -⟩ := List.cons.inj hbehind
    exact absurd hc (by decide)
  | _ => cases hkind

theorem unique_element (hfront : IsBlank front) (h : Written (.value v) t)
    (hback : IsBlank back) (hvalue : (Phrase.value v).Unique t) :
    (Phrase.entry none v).Unique (front ++ (t ++ back)) := by
  intro key' v' t' r r' h' hr hr' heq
  cases h' with
  | @element front' t' back' _ hfront' h' hback' =>
    simp only [List.append_assoc] at heq
    obtain ⟨rfl, hinside⟩ := eq_of_fronts hfront hfront' h h' heq
    obtain ⟨rfl, rfl⟩ := hvalue h' (takeWhile_behind_value hback hr rfl)
      (takeWhile_behind_value hback' hr' rfl) hinside
    obtain ⟨rfl, -⟩ := eq_of_stretches hback hback' (takeWhile_of_startsIn hr rfl)
      (takeWhile_of_startsIn hr' rfl) (List.append_cancel_left hinside)
    exact ⟨rfl, rfl, rfl⟩
  | @member front' key' gap' t' s' _ hfront' hkey' hgap' h' =>
    simp only [List.append_assoc] at heq
    obtain ⟨rfl, hinside⟩ := eq_of_fronts hfront hfront' h (.string hkey') heq
    exact absurd hinside.symm (key_ne_value hkey' hgap' h hback hr)

theorem unique_member {gap : Text} (hfront : IsBlank front) (hkey : IsString k s)
    (hgap : IsBlank gap) (helement : (Phrase.entry none v).Unique t) :
    (Phrase.entry (some s) v).Unique (front ++ (k ++ (gap ++ ':' :: t))) := by
  intro key' v' t' r r' h' hr hr' heq
  cases h' with
  | @element front' t' back' _ hfront' h' hback' =>
    simp only [List.append_assoc] at heq
    obtain ⟨rfl, hinside⟩ := eq_of_fronts hfront hfront' (.string hkey) h' heq
    exact absurd hinside (key_ne_value hkey hgap h' hback' hr')
  | @member front' k' gap' t' s' _ hfront' hkey' hgap' h' =>
    simp only [List.append_assoc] at heq
    obtain ⟨rfl, hinside⟩ := eq_of_fronts hfront hfront' (.string hkey) (.string hkey') heq
    obtain ⟨rfl, rfl⟩ := hkey.unique hkey' hinside
    obtain ⟨rfl, hbehind⟩ := eq_of_stretches hgap hgap' rfl rfl
      (List.append_cancel_left hinside)
    obtain ⟨-, rfl, rfl⟩ := helement h' hr hr' (List.cons.inj hbehind).2
    exact ⟨rfl, rfl, rfl⟩

/-! ### All entries -/

/-- An entry starts with white space and a value, which may be a key. -/
theorem Written.exists_value (h : Written (.entry key v) t) :
    ∃ front w value rest, IsBlank front ∧ Written (.value w) value ∧
      t = front ++ (value ++ rest) := by
  cases h with
  | element hfront h _ => exact ⟨_, _, _, _, hfront, h, rfl⟩
  | member hfront hkey _ _ => exact ⟨_, _, _, _, hfront, .string hkey, rfl⟩

/-- Where all entries have ended, no entry begins. -/
theorem blank_ne_entry {w : Text} (hb : IsBlank b) (hr : StartsIn entriesEnds r)
    (h : Written (.entry key v) t) : b ++ r ≠ t ++ w := by
  intro heq
  obtain ⟨front, value, u, rest, hfront, hvalue, rfl⟩ := h.exists_value
  rw [List.append_assoc, List.append_assoc] at heq
  obtain ⟨-, rfl⟩ := eq_of_stretches hb hfront (takeWhile_of_startsIn hr rfl)
    (takeWhile_of_written hvalue _) heq
  obtain ⟨c, more, hstart, hc⟩ := hr
  obtain ⟨c', more', rfl, hc'⟩ := hvalue.head
  obtain ⟨rfl, -⟩ := List.cons.inj hstart
  have hnone : entriesEnds.any (fun c => (kindOf? c).isSome) = false := rfl
  exact List.any_eq_false.mp hnone c' hc (Option.isSome_of_eq_some hc')

theorem StartsIn.ne_comma (h : StartsIn entriesEnds r) (u : Text) : r ≠ ',' :: u := by
  obtain ⟨c, more, rfl, hc⟩ := h
  intro heq
  obtain ⟨rfl, -⟩ := List.cons.inj heq
  exact absurd hc (by decide)

theorem unique_none (hb : IsBlank b) : (Phrase.entries []).Unique b := by
  intro es' t' r r' h' hr hr' heq
  cases h' with
  | none hb' =>
    obtain ⟨rfl, -⟩ := eq_of_stretches hb hb' (takeWhile_of_startsIn hr rfl)
      (takeWhile_of_startsIn hr' rfl) heq
    exact ⟨rfl, rfl⟩
  | last h' => exact absurd heq (blank_ne_entry hb hr h')
  | more h' _ =>
    rw [List.append_assoc] at heq
    exact absurd heq (blank_ne_entry hb hr h')

theorem unique_last (h : Written (.entry key v) t) (hentry : (Phrase.entry key v).Unique t) :
    (Phrase.entries [(key, v)]).Unique t := by
  intro es' t' r r' h' hr hr' heq
  cases h' with
  | none hb' => exact absurd heq.symm (blank_ne_entry hb' hr' h)
  | last h' =>
    obtain ⟨rfl, rfl, rfl⟩ := hentry h' hr.entry hr'.entry heq
    exact ⟨rfl, rfl⟩
  | more h' _ =>
    rw [List.append_assoc] at heq
    obtain ⟨-, -, rfl⟩ := hentry h' hr.entry (startsIn_comma _) heq
    exact absurd (List.append_cancel_left heq) (hr.ne_comma _)

theorem unique_more {es : List (Option Text × Json)} (h : Written (.entry key v) t)
    (hentry : (Phrase.entry key v).Unique t) (hmore : (Phrase.entries es).Unique u) :
    (Phrase.entries ((key, v) :: es)).Unique (t ++ ',' :: u) := by
  intro es' t' r r' h' hr hr' heq
  rw [List.append_assoc] at heq
  cases h' with
  | none hb' => exact absurd heq.symm (blank_ne_entry hb' hr' h)
  | last h' =>
    obtain ⟨-, -, rfl⟩ := hentry h' (startsIn_comma _) hr'.entry heq
    exact absurd (List.append_cancel_left heq).symm (hr'.ne_comma _)
  | more h' hmore' =>
    rw [List.append_assoc] at heq
    obtain ⟨rfl, rfl, rfl⟩ := hentry h' (startsIn_comma _) (startsIn_comma _) heq
    obtain ⟨rfl, rfl⟩ := hmore hmore' hr hr' (List.cons.inj (List.append_cancel_left heq)).2
    exact ⟨rfl, rfl⟩

/-- Whatever phrase a text begins with, no other one of its sort begins there. -/
theorem Written.unique {p : Phrase} (h : Written p t) : p.Unique t := by
  -- The parts of the first phrase are the only ones where they begin, so the second phrase has
  -- them too, one after the other.
  induction h with
  | null => exact unique_null
  | bool b => exact unique_bool b
  | number h => exact unique_number h
  | string h => exact unique_string h
  | array h ih => exact unique_array h ih
  | object h ih => exact unique_object h ih
  | element hfront h hback ih => exact unique_element hfront h hback ih
  | member hfront hkey hgap _ ih => exact unique_member hfront hkey hgap ih
  | none hb => exact unique_none hb
  | last h ih => exact unique_last h ih
  | more h _ ih ihmore => exact unique_more h ih ihmore

/-- A text says one value at most. -/
theorem IsText.unique (h : IsText t v) (h' : IsText t v') : v = v' :=
  have hend : StartsIn entryEnds [']'] := ⟨']', [], rfl, by decide⟩
  (Written.unique h h' hend hend rfl).2.1

end Json

end LexScan
