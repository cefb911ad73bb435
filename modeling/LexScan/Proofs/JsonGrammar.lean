import LexScan.Text
import LexScan.Proofs.NumberGrammar
import Mathlib.Algebra.Field.Rat

/-!
# The grammar of JSON

What a text says as JSON, with white space, fractions, exponents and every kind of escape. The
grammar does not know how values are rendered.

Its smallest parts tell where they end. A number goes on as long as there are characters for
one, and its sign, its digits, its fraction and its exponent are told by these; of the ways to
write a character none goes on behind another one, so that a string ends with the first quote
that is not escaped.
-/

namespace LexScan

/-- What can be said. An object is the list of its members, in the order they are written. -/
inductive Json where
  | null
  | bool (b : Bool)
  | number (q : ℚ)
  | string (t : Text)
  | array (items : List Json)
  | object (members : List (Text × Json))

namespace Json

/-! ## Numbers -/

/-- The power of ten that an exponent stands for. -/
def powerOf : Text → ℤ
  | [] => 0
  | _ :: '-' :: places => -(Nat.ofDigitChars 10 places 0 : ℤ)
  | _ :: '+' :: places => Nat.ofDigitChars 10 places 0
  | _ :: places => Nat.ofDigitChars 10 places 0

/-- What the parts of a number come to. A fraction is its places behind a point. -/
def numberValue (minus whole part power : Text) : ℚ :=
  (if minus = [] then 1 else -1) * (Nat.ofDigitChars 10 (whole ++ part.drop 1) 0 : ℚ)
    * 10 ^ (powerOf power - (part.drop 1).length)

/-- A number and its value. Only zero itself starts with a zero. -/
inductive IsNumber : Text → ℚ → Prop where
  | mk {minus whole part power : Text} (hminus : minus = [] ∨ minus = ['-'])
      (hwhole : Token.IsDigits whole) (hzero : whole.head? = some '0' → whole = ['0'])
      (hpart : Token.IsFraction part) (hpower : Token.IsExponent power) :
      IsNumber (minus ++ (whole ++ (part ++ power))) (numberValue minus whole part power)

/-! ## Strings -/

def hexDigit? (c : Char) : Option Nat :=
  if '0' ≤ c ∧ c ≤ '9' then some (c.toNat - '0'.toNat)
  else if 'a' ≤ c ∧ c ≤ 'f' then some (c.toNat - 'a'.toNat + 10)
  else if 'A' ≤ c ∧ c ≤ 'F' then some (c.toNat - 'A'.toNat + 10)
  else none

/-- The number that four hexadecimal digits write. -/
def codeUnit? : Text → Option Nat
  | [a, b, c, d] => do
      let i ← hexDigit? a
      let j ← hexDigit? b
      let k ← hexDigit? c
      let l ← hexDigit? d
      some (((i * 16 + j) * 16 + k) * 16 + l)
  | _ => none

/-- The character that a letter behind a backslash stands for. -/
def shortEscape? : Char → Option Char
  | '"' => some '"'
  | '\\' => some '\\'
  | '/' => some '/'
  | 'b' => some '\x08'
  | 'f' => some '\x0c'
  | 'n' => some '\n'
  | 'r' => some '\r'
  | 't' => some '\t'
  | _ => none

/-- A character behind a backslash and a letter U: its code point, or two surrogates. -/
inductive IsCode : Text → Char → Prop where
  | unit {digits : Text} {c : Char} (h : codeUnit? digits = some c.toNat) : IsCode digits c
  | pair {first second : Text} {c : Char} {high low : Nat} (hfirst : codeUnit? first = some high)
      (hsecond : codeUnit? second = some low) (hhigh : 0xD800 ≤ high ∧ high < 0xDC00)
      (hlow : 0xDC00 ≤ low ∧ low < 0xE000)
      (hc : c.toNat = 0x10000 + (high - 0xD800) * 0x400 + (low - 0xDC00)) :
      IsCode (first ++ '\\' :: 'u' :: second) c

/-- A character behind a backslash. -/
inductive IsEscape : Text → Char → Prop where
  | short {e c : Char} (h : shortEscape? e = some c) : IsEscape [e] c
  | code {t : Text} {c : Char} (h : IsCode t c) : IsEscape ('u' :: t) c

/-- A character of a string. A quote, a backslash and characters below U+0020 cannot stand
there as themselves. -/
inductive IsForm : Text → Char → Prop where
  | plain {c : Char} (hquote : c ≠ '"') (hbackslash : c ≠ '\\') (hvisible : 0x20 ≤ c.toNat) :
      IsForm [c] c
  | escape {t : Text} {c : Char} (h : IsEscape t c) : IsForm ('\\' :: t) c

/-- What stands between the quotes of a string. -/
inductive IsBody : Text → Text → Prop where
  | nil : IsBody [] []
  | cons {form t s : Text} {c : Char} (hform : IsForm form c) (h : IsBody t s) :
      IsBody (form ++ t) (c :: s)

inductive IsString : Text → Text → Prop where
  | mk {t s : Text} (h : IsBody t s) : IsString ('"' :: (t ++ ['"'])) s

/-! ## Values -/

def isBlank (c : Char) : Bool := c == ' ' || c == '\t' || c == '\n' || c == '\r'

/-- White space, perhaps none. -/
def IsBlank (t : Text) : Prop := ∀ c ∈ t, isBlank c = true

/-- What the parts of a text say: a value, or an entry of an array or an object, or all of
its entries. An entry of an object has a key. -/
inductive Phrase where
  | value (v : Json)
  | entry (key : Option Text) (v : Json)
  | entries (es : List (Option Text × Json))

def boolText : Bool → Text
  | true => ['t', 'r', 'u', 'e']
  | false => ['f', 'a', 'l', 's', 'e']

/-- Phrases and the texts that say them. White space belongs to the entries. -/
inductive Written : Phrase → Text → Prop where
  | null : Written (.value .null) ['n', 'u', 'l', 'l']
  | bool (b : Bool) : Written (.value (.bool b)) (boolText b)
  | number {t : Text} {q : ℚ} (h : IsNumber t q) : Written (.value (.number q)) t
  | string {t s : Text} (h : IsString t s) : Written (.value (.string s)) t
  | array {t : Text} {items : List Json} (h : Written (.entries (items.map (Prod.mk none))) t) :
      Written (.value (.array items)) ('[' :: (t ++ [']']))
  | object {t : Text} {members : List (Text × Json)}
      (h : Written (.entries (members.map (Prod.map some id))) t) :
      Written (.value (.object members)) ('{' :: (t ++ ['}']))
  | element {front t back : Text} {v : Json} (hfront : IsBlank front)
      (h : Written (.value v) t) (hback : IsBlank back) :
      Written (.entry none v) (front ++ (t ++ back))
  | member {front key gap t s : Text} {v : Json} (hfront : IsBlank front)
      (hkey : IsString key s) (hgap : IsBlank gap) (h : Written (.entry none v) t) :
      Written (.entry (some s) v) (front ++ (key ++ (gap ++ ':' :: t)))
  | none {t : Text} (h : IsBlank t) : Written (.entries []) t
  | last {t : Text} {key : Option Text} {v : Json} (h : Written (.entry key v) t) :
      Written (.entries [(key, v)]) t
  | more {t u : Text} {key : Option Text} {v : Json} {e : Option Text × Json}
      {es : List (Option Text × Json)} (h : Written (.entry key v) t)
      (hmore : Written (.entries (e :: es)) u) :
      Written (.entries ((key, v) :: e :: es)) (t ++ ',' :: u)

/-- A whole text that says a value, with white space around it. -/
def IsText (t : Text) (v : Json) : Prop := Written (.entry none v) t

variable {a a' r r' t t' : Text}

/-! ## Where numbers end -/

/-- Two stretches of characters that pass a test, each up to one that fails it. -/
theorem eq_of_stretches {p : Char → Bool} (ha : ∀ c ∈ a, p c = true)
    (ha' : ∀ c ∈ a', p c = true) (hr : r.takeWhile p = []) (hr' : r'.takeWhile p = [])
    (heq : a ++ r = a' ++ r') : a = a' ∧ r = r' := by
  have hstretch := congrArg (List.takeWhile p) heq
  rw [List.takeWhile_append_of_pos ha, List.takeWhile_append_of_pos ha', hr, hr',
    List.append_nil, List.append_nil] at hstretch
  subst hstretch
  exact ⟨rfl, List.append_cancel_left heq⟩

theorem leadingFraction_append_exponent {part power : Text} (hpart : Token.IsFraction part)
    (hpower : Token.IsExponent power) : Token.leadingFraction (part ++ power) = part := by
  cases hpower with
  | absent =>
    have hbegins := Token.isPrefix_fraction hpart []
    rw [List.append_nil] at hbegins ⊢
    exact (Token.isPrefix_leadingFraction part).eq_of_length_le hbegins.length_le
  | power he hs hplaces => exact Token.leadingFraction_before_exponentMark hpart he _

theorem leadingDigits_append_rest {whole part power : Text} (hwhole : Token.IsDigits whole)
    (hpart : Token.IsFraction part) (hpower : Token.IsExponent power) :
    Token.leadingDigits (whole ++ (part ++ power)) = whole := by
  have hrest : Token.leadingDigits (part ++ power) = [] := by
    rcases Token.leadingDigits_fraction_exponent hpart hpower [] with hnothing | hnoDigit
    · rw [hnothing]
      rfl
    · rwa [List.append_nil] at hnoDigit
  rw [Token.leadingDigits_append hwhole, hrest, List.append_nil]

theorem head?_append_of_isDigits {whole : Text} (h : Token.IsDigits whole) (t : Text) :
    (whole ++ t).head? ≠ some '-' := by
  obtain ⟨d, more, rfl, hd⟩ := h.exists_cons
  intro hminus
  obtain rfl := Option.some.inj hminus
  cases hd

theorem eq_of_minus {minus minus' : Text} (h : minus = [] ∨ minus = ['-'])
    (h' : minus' = [] ∨ minus' = ['-']) (ht : t.head? ≠ some '-') (ht' : t'.head? ≠ some '-')
    (heq : minus ++ t = minus' ++ t') : minus = minus' := by
  rcases h with rfl | rfl
  · rcases h' with rfl | rfl
    · rfl
    · rw [List.nil_append] at heq
      exact absurd (congrArg List.head? heq) ht
  · rcases h' with rfl | rfl
    · rw [List.nil_append] at heq
      exact absurd (congrArg List.head? heq.symm) ht'
    · rfl

/-- A number has one value, since its parts are told by the text. -/
theorem IsNumber.value_unique {q q' : ℚ} (h : IsNumber t q) (h' : IsNumber t' q')
    (heq : t = t') : q = q' := by
  obtain ⟨hminus, hwhole, -, hpart, hpower⟩ := h
  obtain ⟨hminus', hwhole', -, hpart', hpower'⟩ := h'
  -- The parts are the same one after the other, and each lets the next one begin.
  obtain rfl := eq_of_minus hminus hminus' (head?_append_of_isDigits hwhole _)
    (head?_append_of_isDigits hwhole' _) heq
  have hrest := List.append_cancel_left heq
  have hdigits := congrArg Token.leadingDigits hrest
  rw [leadingDigits_append_rest hwhole hpart hpower,
    leadingDigits_append_rest hwhole' hpart' hpower'] at hdigits
  subst hdigits
  have hrest := List.append_cancel_left hrest
  have hfraction := congrArg Token.leadingFraction hrest
  rw [leadingFraction_append_exponent hpart hpower,
    leadingFraction_append_exponent hpart' hpower'] at hfraction
  subst hfraction
  rw [List.append_cancel_left hrest]

example : numberValue ['-'] ['1'] ['.', '5', '0'] ['e', '+', '1'] = -15 := by decide +kernel

theorem IsNumber.isNumberPart {q : ℚ} (h : IsNumber t q) :
    ∀ c ∈ t, Token.isNumberPart c = true := by
  obtain ⟨hminus, hwhole, -, hpart, hpower⟩ := h
  refine List.forall_mem_append.mpr ⟨?_, List.forall_mem_append.mpr ⟨hwhole.isNumberPart,
    List.forall_mem_append.mpr ⟨hpart.isNumberPart, hpower.isNumberPart⟩⟩⟩
  rcases hminus with rfl | rfl
  · exact List.forall_mem_nil _
  · exact List.forall_mem_singleton.mpr rfl

/-! ## Where strings end -/

theorem length_of_codeUnit? {n : Nat} (h : codeUnit? t = some n) : t.length = 4 := by
  unfold codeUnit? at h
  split at h
  · rfl
  · cases h

theorem codeUnit?_unique {n n' : Nat} (h : codeUnit? a = some n) (h' : codeUnit? a' = some n')
    (heq : a ++ r = a' ++ r') : a = a' ∧ n = n' ∧ r = r' := by
  have hlength : a.length = a'.length := by
    rw [length_of_codeUnit? h, length_of_codeUnit? h']
  obtain ⟨rfl, hr⟩ := List.append_inj heq hlength
  exact ⟨rfl, Option.some.inj (h.symm.trans h'), hr⟩

/-- A code point that stands for itself is no surrogate. -/
theorem toNat_ne_high {n : Nat} (h : 0xD800 ≤ n ∧ n < 0xDC00) (c : Char) : c.toNat ≠ n := by
  have hvalid : c.toNat < 0xD800 ∨ 0xDFFF < c.toNat ∧ c.toNat < 0x110000 := c.valid
  omega

theorem IsCode.unique {c c' : Char} (h : IsCode t c) (h' : IsCode t' c')
    (heq : t ++ r = t' ++ r') : c = c' ∧ t = t' := by
  cases h with
  | unit h =>
    cases h' with
    | unit h' =>
      obtain ⟨rfl, hc, -⟩ := codeUnit?_unique h h' heq
      exact ⟨Char.toNat_inj.mp hc, rfl⟩
    | pair hfirst _ hhigh _ _ =>
      rw [List.append_assoc] at heq
      exact absurd (codeUnit?_unique h hfirst heq).2.1 (toNat_ne_high hhigh c)
  | pair hfirst hsecond hhigh _ hc =>
    cases h' with
    | unit h' =>
      rw [List.append_assoc] at heq
      exact absurd (codeUnit?_unique hfirst h' heq).2.1.symm (toNat_ne_high hhigh c')
    | pair hfirst' hsecond' _ _ hc' =>
      rw [List.append_assoc, List.append_assoc] at heq
      obtain ⟨rfl, rfl, heq⟩ := codeUnit?_unique hfirst hfirst' heq
      obtain ⟨rfl, rfl, -⟩ := codeUnit?_unique hsecond hsecond' (by simpa using heq)
      exact ⟨Char.toNat_inj.mp (hc.trans hc'.symm), rfl⟩

theorem IsEscape.unique {c c' : Char} (h : IsEscape t c) (h' : IsEscape t' c')
    (heq : t ++ r = t' ++ r') : c = c' ∧ t = t' := by
  cases h with
  | short h =>
    cases h' with
    | short h' =>
      obtain ⟨rfl, -⟩ := List.cons.inj heq
      exact ⟨Option.some.inj (h.symm.trans h'), rfl⟩
    | code h' =>
      obtain ⟨rfl, -⟩ := List.cons.inj heq
      cases h
  | code h =>
    cases h' with
    | short h' =>
      obtain ⟨rfl, -⟩ := List.cons.inj heq
      cases h'
    | code h' =>
      obtain ⟨rfl, rfl⟩ := h.unique h' (List.cons.inj heq).2
      exact ⟨rfl, rfl⟩

/-- Of two characters that a text begins with, neither goes on behind the other. -/
theorem IsForm.unique {c c' : Char} (h : IsForm t c) (h' : IsForm t' c')
    (heq : t ++ r = t' ++ r') : c = c' ∧ t = t' := by
  cases h with
  | plain _ hbackslash _ =>
    cases h' with
    | plain =>
      obtain ⟨rfl, -⟩ := List.cons.inj heq
      exact ⟨rfl, rfl⟩
    | escape => exact absurd (List.cons.inj heq).1 hbackslash
  | escape h =>
    cases h' with
    | plain _ hbackslash _ => exact absurd (List.cons.inj heq).1.symm hbackslash
    | escape h' =>
      obtain ⟨rfl, rfl⟩ := h.unique h' (List.cons.inj heq).2
      exact ⟨rfl, rfl⟩

theorem IsForm.ne_quote {c : Char} (h : IsForm t c) (r' : Text) : t ++ r ≠ '"' :: r' := by
  intro heq
  cases h with
  | plain hquote _ _ => exact hquote (List.cons.inj heq).1
  | escape h => cases heq

theorem IsBody.unique {s s' : Text} (h : IsBody t s) (h' : IsBody t' s')
    (heq : t ++ '"' :: r = t' ++ '"' :: r') : s = s' ∧ t = t' := by
  induction h generalizing t' s' with
  | nil =>
    cases h' with
    | nil => exact ⟨rfl, rfl⟩
    | cons hform' _ =>
      rw [List.append_assoc] at heq
      exact absurd heq.symm (hform'.ne_quote r)
  | cons hform _ ih =>
    cases h' with
    | nil =>
      rw [List.append_assoc] at heq
      exact absurd heq (hform.ne_quote r')
    | cons hform' h' =>
      rw [List.append_assoc, List.append_assoc] at heq
      obtain ⟨rfl, rfl⟩ := hform.unique hform' heq
      obtain ⟨rfl, rfl⟩ := ih h' (List.append_cancel_left heq)
      exact ⟨rfl, rfl⟩

theorem IsString.unique {s s' : Text} (h : IsString t s) (h' : IsString t' s')
    (heq : t ++ r = t' ++ r') : s = s' ∧ t = t' := by
  obtain ⟨h⟩ := h
  obtain ⟨h'⟩ := h'
  obtain ⟨rfl, rfl⟩ := h.unique h' (by simpa using heq)
  exact ⟨rfl, rfl⟩

end Json

end LexScan
