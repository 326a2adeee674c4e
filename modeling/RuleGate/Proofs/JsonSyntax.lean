import RuleGate.Proofs.JsonRoundTrip

/-! The texts of JSON. A tree holds what a text says and leaves open how it is said: where space
stands, and which characters of a string are escaped. The texts of a tree are those of the grammar
of JSON, which knows no bound on the depth of values and on the size of numbers, and lets strings
stand that cannot be decoded. -/

namespace RuleGate.Json

open Reader

/-- A value as a text says it: a number by its characters behind the minus, a string by what it
decodes to, if it does, and an object by its members in their order. -/
inductive Tree where
  | null
  | bool (value : Bool)
  | number (negative : Bool) (digits : List Char)
  | string (content : Option String)
  | array (items : List Tree)
  | object (members : List (Option String × Tree))

/-- Whether there is nothing that the text says. -/
def Tree.isNull : Tree → Bool
  | .null => true
  | _ => false

theorem Tree.isNull_iff (t : Tree) : t.isNull = true ↔ t = .null := by
  cases t <;> simp [isNull]

/-! ### Space and strings -/

/-- The text begins with space, perhaps none, behind which the rest stands. -/
def Space (s rest : List Char) : Prop :=
  ∃ space, (∀ c ∈ space, isSpace c = true) ∧ s = space ++ rest

/-- Four hexadecimal digits and their number. -/
structure IsHex (digits : List Char) (n : Nat) : Prop where
  length : digits.length = 4
  value : Text.hexNumber? digits = some n

/-- The text begins with what a string says, up to its closing quote, behind which the rest stands.
There is nothing that it says if half of a surrogate pair stands alone. -/
inductive Spells : List Char → Option (List Char) → List Char → Prop
  | close (rest : List Char) : Spells ('"' :: rest) (some []) rest
  | plain {c : Char} {s rest : List Char} {content : Option (List Char)} (hquote : c ≠ '"')
      (hslash : c ≠ '\\') (hcontrol : 0x20 ≤ c.toNat) (h : Spells s content rest) :
      Spells (c :: s) (content.map (c :: ·)) rest
  | short {letter c : Char} {s rest : List Char} {content : Option (List Char)}
      (hletter : shortEscape? letter = some c) (h : Spells s content rest) :
      Spells ('\\' :: letter :: s) (content.map (c :: ·)) rest
  | unit {digits s rest : List Char} {n : Nat} {content : Option (List Char)}
      (hdigits : IsHex digits n) (hlow : isLowSurrogate n = false)
      (hhigh : isHighSurrogate n = false) (h : Spells s content rest) :
      Spells ('\\' :: 'u' :: (digits ++ s)) (content.map (Char.ofNat n :: ·)) rest
  | pair {digits others s rest : List Char} {n m : Nat} {content : Option (List Char)}
      (hdigits : IsHex digits n) (hhigh : isHighSurrogate n = true) (hothers : IsHex others m)
      (hlow : isLowSurrogate m = true) (h : Spells s content rest) :
      Spells ('\\' :: 'u' :: (digits ++ '\\' :: 'u' :: (others ++ s)))
        (content.map (Char.ofNat (0x10000 + (n - 0xD800) * 0x400 + (m - 0xDC00)) :: ·)) rest
  | lone {digits s rest : List Char} {n : Nat} {content : Option (List Char)}
      (hdigits : IsHex digits n) (hhalf : isLowSurrogate n = true ∨ isHighSurrogate n = true ∧
        ∀ others m t, IsHex others m → isLowSurrogate m = true → s ≠ '\\' :: 'u' :: (others ++ t))
      (h : Spells s content rest) : Spells ('\\' :: 'u' :: (digits ++ s)) none rest

/-! ### Numbers -/

/-- Decimal digits, at least one. -/
def IsDigits (digits : List Char) : Prop :=
  digits ≠ [] ∧ ∀ d ∈ digits, d.isDigit = true

/-- The digits before the point; zero comes first only if it stands alone. -/
inductive IsWholePart : List Char → Prop
  | zero : IsWholePart ['0']
  | digits {d : Char} {rest : List Char} (h : IsDigits (d :: rest)) (hd : d ≠ '0') :
      IsWholePart (d :: rest)

/-- A fraction, which may be missing. -/
inductive IsFraction : List Char → Prop
  | absent : IsFraction []
  | present {digits : List Char} (h : IsDigits digits) : IsFraction ('.' :: digits)

/-- An exponent, which may be missing. -/
inductive IsExponent : List Char → Prop
  | absent : IsExponent []
  | present {mark : Char} {sign digits : List Char} (hmark : mark = 'e' ∨ mark = 'E')
      (hsign : sign = [] ∨ sign = ['+'] ∨ sign = ['-']) (h : IsDigits digits) :
      IsExponent (mark :: (sign ++ digits))

/-- Numbers without a sign. -/
inductive IsUnsigned : List Char → Prop
  | mk {whole fraction exponent : List Char} (hwhole : IsWholePart whole)
      (hfraction : IsFraction fraction) (hexponent : IsExponent exponent) :
      IsUnsigned (whole ++ (fraction ++ exponent))

/-! ### Values -/

/-- What a part of a text says: a value, or the remaining items of an array or members of an object
together with the bracket that closes them, of which the first may still be to come. -/
inductive Part where
  | value (t : Tree)
  | items (first : Bool) (ts : List Tree)
  | members (first : Bool) (ms : List (Option String × Tree))

/-- What stands before an element: space, and a comma too unless the element is the first. -/
def Separated : Bool → List Char → List Char → Prop
  | true, s, rest => Space s rest
  | false, s, rest => ∃ t, Space s (',' :: t) ∧ Space t rest

/-- The text begins with what says the part, behind which the rest stands. -/
inductive Says : List Char → Part → List Char → Prop
  | null (rest : List Char) : Says ('n' :: 'u' :: 'l' :: 'l' :: rest) (.value .null) rest
  | truth (rest : List Char) : Says ('t' :: 'r' :: 'u' :: 'e' :: rest) (.value (.bool true)) rest
  | falsity (rest : List Char) :
      Says ('f' :: 'a' :: 'l' :: 's' :: 'e' :: rest) (.value (.bool false)) rest
  | natural {digits : List Char} (h : IsUnsigned digits) (rest : List Char) :
      Says (digits ++ rest) (.value (.number false digits)) rest
  | negative {digits : List Char} (h : IsUnsigned digits) (rest : List Char) :
      Says ('-' :: (digits ++ rest)) (.value (.number true digits)) rest
  | string {s rest : List Char} {content : Option (List Char)} (h : Spells s content rest) :
      Says ('"' :: s) (.value (.string (content.map String.ofList))) rest
  | array {s rest : List Char} {ts : List Tree} (h : Says s (.items true ts) rest) :
      Says ('[' :: s) (.value (.array ts)) rest
  | object {s rest : List Char} {ms : List (Option String × Tree)}
      (h : Says s (.members true ms) rest) :
      Says ('\x7b' :: s) (.value (.object ms)) rest
  | endOfItems (first : Bool) {s rest : List Char} (h : Space s (']' :: rest)) :
      Says s (.items first []) rest
  | item {first : Bool} {s s₁ s₂ rest : List Char} {t : Tree} {ts : List Tree}
      (hseparated : Separated first s s₁) (hitem : Says s₁ (.value t) s₂)
      (hrest : Says s₂ (.items false ts) rest) :
      Says s (.items first (t :: ts)) rest
  | endOfMembers (first : Bool) {s rest : List Char} (h : Space s ('\x7d' :: rest)) :
      Says s (.members first []) rest
  | member {first : Bool} {s s₁ s₂ s₃ s₄ s₅ rest : List Char} {key : Option (List Char)} {t : Tree}
      {ms : List (Option String × Tree)} (hseparated : Separated first s ('"' :: s₁))
      (hkey : Spells s₁ key s₂) (hcolon : Space s₂ (':' :: s₃)) (hspace : Space s₃ s₄)
      (hvalue : Says s₄ (.value t) s₅) (hrest : Says s₅ (.members false ms) rest) :
      Says s (.members first ((key.map String.ofList, t) :: ms)) rest

/-- Texts of an object whose keys can be decoded, with space around it. -/
def IsObjectText (s : List Char) (ms : List (String × Tree)) : Prop :=
  ∃ t rest, Space s t ∧ Says t (.value (.object (ms.map fun m => (some m.1, m.2)))) rest ∧
    Space rest []

/-! ### What texts begin with, and how much they take -/

theorem Space.refl (s : List Char) : Space s s :=
  ⟨[], List.forall_mem_nil _, rfl⟩

theorem Space.length_le {s rest : List Char} (h : Space s rest) : rest.length ≤ s.length := by
  obtain ⟨space, _, rfl⟩ := h
  rw [List.length_append]
  exact Nat.le_add_left _ _

theorem Separated.length_le {first : Bool} {s rest : List Char} (h : Separated first s rest) :
    rest.length ≤ s.length := by
  cases first with
  | true => exact Space.length_le h
  | false =>
      obtain ⟨t, hcomma, hspace⟩ := h
      have hcomma := hcomma.length_le
      have hspace := hspace.length_le
      rw [List.length_cons] at hcomma
      omega

theorem Space.cons {c : Char} {s rest : List Char} (hc : isSpace c = true) (h : Space s rest) :
    Space (c :: s) rest := by
  obtain ⟨space, hspace, rfl⟩ := h
  exact ⟨c :: space, List.forall_mem_cons.mpr ⟨hc, hspace⟩, rfl⟩

theorem Separated.first {s rest : List Char} (h : Space s rest) : Separated true s rest := h

theorem Separated.next {s rest : List Char} (h : Space s rest) : Separated false (',' :: s) rest :=
  ⟨s, .refl _, h⟩

/-- Characters that stand for themselves. -/
theorem Spells.plainly {s rest : List Char} {content : Option (List Char)}
    (h : Spells s content rest) (cs : List Char)
    (hcs : ∀ c ∈ cs, c ≠ '"' ∧ c ≠ '\\' ∧ 0x20 ≤ c.toNat) :
    Spells (cs ++ s) (content.map (cs ++ ·)) rest := by
  induction cs with
  | nil => simpa using h
  | cons c cs ih =>
      obtain ⟨⟨hquote, hslash, hcontrol⟩, hrest⟩ := List.forall_mem_cons.mp hcs
      have hplain := Spells.plain hquote hslash hcontrol (ih hrest)
      rwa [Option.map_map] at hplain

theorem Spells.length_lt {s rest : List Char} {content : Option (List Char)}
    (h : Spells s content rest) : rest.length < s.length := by
  induction h <;> simp only [List.length_cons, List.length_append] <;> omega

theorem IsWholePart.isDigits {whole : List Char} (h : IsWholePart whole) : IsDigits whole := by
  cases h with
  | zero => exact ⟨List.cons_ne_nil _ _, List.forall_mem_singleton.mpr (by decide)⟩
  | digits h => exact h

/-- A number begins with a digit. -/
theorem IsUnsigned.exists_digit {digits : List Char} (h : IsUnsigned digits) :
    ∃ d rest, digits = d :: rest ∧ d.isDigit = true := by
  obtain ⟨hwhole, _, _⟩ := h
  obtain ⟨hne, hdigits⟩ := hwhole.isDigits
  obtain ⟨d, rest, rfl⟩ := List.exists_cons_of_ne_nil hne
  exact ⟨d, _, rfl, hdigits d List.mem_cons_self⟩

theorem Says.length_lt {s rest : List Char} {part : Part} (h : Says s part rest) :
    rest.length < s.length := by
  induction h with
  | null | truth | falsity => simp only [List.length_cons]; omega
  | natural h rest =>
      obtain ⟨d, tail, rfl, _⟩ := h.exists_digit
      simp only [List.cons_append, List.length_cons, List.length_append]
      omega
  | negative => simp only [List.length_cons, List.length_append]; omega
  | string h =>
      have hstring := h.length_lt
      rw [List.length_cons]
      omega
  | array _ ih | object _ ih => rw [List.length_cons]; omega
  | endOfItems _ h | endOfMembers _ h =>
      have hspace := h.length_le
      rw [List.length_cons] at hspace
      omega
  | item hseparated _ _ ihitem ihrest =>
      have hlength := hseparated.length_le
      omega
  | member hseparated hkey hcolon hspace _ _ ihvalue ihrest =>
      have hlength := hseparated.length_le
      have hkey := hkey.length_lt
      have hcolon := hcolon.length_le
      have hspace := hspace.length_le
      rw [List.length_cons] at hlength hcolon
      omega

/-- A value begins neither with space nor with what ends an array. -/
theorem Says.startsValue {s rest : List Char} {t : Tree}
    (h : Says s (.value t) rest) : StartsValue s := by
  cases h with
  | natural h =>
      obtain ⟨d, tail, rfl, hd⟩ := h.exists_digit
      exact ⟨d, _, rfl, isSpace_of_isDigit hd, ne_of_isDigit hd rfl⟩
  | null | truth | falsity | negative | string | array | object =>
      exact ⟨_, _, rfl, by decide, by decide⟩

/-- Nothing that makes a number longer is space. -/
theorem endsNumber_of_space {s rest : List Char} (h : Space s rest)
    (hrest : EndsNumber rest) : EndsNumber s := by
  obtain ⟨space, hspace, rfl⟩ := h
  cases space with
  | nil => exact hrest
  | cons c space =>
      intro d hd
      have hc := hspace c List.mem_cons_self
      rw [← Option.some.inj hd]
      refine ⟨?_, ?_⟩
      · by_contra hdigit
        rw [isSpace_of_isDigit (by simpa using hdigit)] at hc
        exact absurd hc (by decide)
      · refine ⟨?_, ?_, ?_⟩ <;> rintro rfl <;> exact absurd hc (by decide)

theorem EndsNumber.not_digit {s : List Char} (h : EndsNumber s) :
    ∀ c, s.head? = some c → c.isDigit = false :=
  fun c hc => (h c hc).1

/-- Neither an exponent nor what ends a number goes on with a digit. -/
theorem IsExponent.not_digit {exponent s : List Char} (h : IsExponent exponent)
    (hs : EndsNumber s) : ∀ c, (exponent ++ s).head? = some c → c.isDigit = false := by
  cases h with
  | absent => exact hs.not_digit
  | present hmark =>
      intro c hc
      rw [← Option.some.inj hc]
      rcases hmark with rfl | rfl <;> decide

theorem IsFraction.not_digit {fraction exponent s : List Char} (h : IsFraction fraction)
    (hexponent : IsExponent exponent) (hs : EndsNumber s) :
    ∀ c, (fraction ++ (exponent ++ s)).head? = some c → c.isDigit = false := by
  cases h with
  | absent => exact hexponent.not_digit hs
  | present =>
      intro c hc
      rw [← Option.some.inj hc]
      decide

theorem endsNumber_cons {c : Char} (hc : c = ',' ∨ c = ']' ∨ c = '\x7d') (s : List Char) :
    EndsNumber (c :: s) :=
  (endsValue_cons hc s).endsNumber

/-- Behind an element comes nothing that would make a number longer. -/
theorem Says.endsNumber {s rest : List Char} {part : Part} (h : Says s part rest)
    (hpart : (∃ ts, part = .items false ts) ∨ ∃ ms, part = .members false ms) : EndsNumber s := by
  cases h with
  | endOfItems _ h => exact endsNumber_of_space h (endsNumber_cons (by decide) _)
  | endOfMembers _ h => exact endsNumber_of_space h (endsNumber_cons (by decide) _)
  | @item first _ _ _ _ _ _ hseparated =>
      cases first with
      | true => simp at hpart
      | false =>
          obtain ⟨t, hcomma, _⟩ := hseparated
          exact endsNumber_of_space hcomma (endsNumber_cons (by decide) _)
  | @member first _ _ _ _ _ _ _ _ _ _ hseparated =>
      cases first with
      | true => simp at hpart
      | false =>
          obtain ⟨t, hcomma, _⟩ := hseparated
          exact endsNumber_of_space hcomma (endsNumber_cons (by decide) _)
  | null | truth | falsity | natural | negative | string | array | object => simp at hpart

end RuleGate.Json
