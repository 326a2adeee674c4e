import RuleGate.Proofs.Dictionary
import RuleGate.Proofs.JsonReading

/-! Values of JSON that are written and read again. What the strict reader gives has a bounded
depth, ordered keys and whole numbers of 64 bits at most; if it holds no other numbers, its compact
text is read as the same value wherever the depth is allowed. -/

namespace RuleGate.Json

/-! ### Values that can be read back -/

/-- Values without floating-point numbers. -/
inductive IsWhole : Json → Prop
  | null : IsWhole .null
  | bool (b : Bool) : IsWhole (.bool b)
  | integer (v : Int) : IsWhole (.number (.integer v))
  | string (s : String) : IsWhole (.string s)
  | array {items : List Json} (h : ∀ item ∈ items, IsWhole item) : IsWhole (.array items)
  | object {members : List (String × Json)} (h : ∀ m ∈ members, IsWhole m.2) :
      IsWhole (.object members)

/-- Values as they are kept when at most `room` arrays and objects may lie inside each other. -/
inductive Kept : Nat → Json → Prop
  | null (room : Nat) : Kept room .null
  | bool (room : Nat) (b : Bool) : Kept room (.bool b)
  | integer (room : Nat) {v : Int} (hlow : -(Reader.maxNegative : Int) ≤ v)
      (hhigh : v ≤ (Reader.maxSignificand : Int)) : Kept room (.number (.integer v))
  | real (room : Nat) (x : Binary64) : Kept room (.number (.real x))
  | string (room : Nat) (s : String) : Kept room (.string s)
  | array {room : Nat} {items : List Json} (h : ∀ item ∈ items, Kept room item) :
      Kept (room + 1) (.array items)
  | object {room : Nat} {members : List (String × Json)}
      (hkeys : members.Pairwise (fun a b => a.1 < b.1))
      (h : ∀ m ∈ members, Kept room m.2) : Kept (room + 1) (.object members)

/-- What may stand behind a value in an array or an object. -/
def EndsValue (s : List Char) : Prop :=
  ∀ c, s.head? = some c → c = ',' ∨ c = ']' ∨ c = '\x7d'

theorem endsValue_cons {c : Char} (hc : c = ',' ∨ c = ']' ∨ c = '\x7d') (s : List Char) :
    EndsValue (c :: s) := by
  intro d hd
  rwa [← Option.some.inj hd]

/-- What may stand behind a number without fraction and exponent: nothing that would make it
longer. -/
def EndsNumber (s : List Char) : Prop :=
  ∀ c, s.head? = some c → c.isDigit = false ∧ c ≠ '.' ∧ c ≠ 'e' ∧ c ≠ 'E'

theorem EndsValue.endsNumber {s : List Char} (hs : EndsValue s) : EndsNumber s := by
  intro c hc
  rcases hs c hc with rfl | rfl | rfl <;> decide

namespace Reader

/-! ### Numbers -/

section Numbers

variable {s : List Char}

theorem appendDigits_eq {digits : List Char} {k n : Nat}
    (hdigits : Nat.ofDigitChars 10 digits k = n) (hn : n ≤ maxSignificand) :
    appendDigits k digits = (n, 0) := by
  induction digits generalizing k with
  | nil =>
      rw [Nat.ofDigitChars_nil] at hdigits
      rw [appendDigits, hdigits]
  | cons d rest ih =>
      rw [Nat.ofDigitChars_cons] at hdigits
      have hlonger : 10 * k + (d.toNat - 0x30) ≤ n := by
        rw [← hdigits, Nat.ofDigitChars_eq_ofDigitChars_zero]
        exact (Nat.le_mul_of_pos_left _ (Nat.pow_pos (by decide))).trans (Nat.le_add_right _ _)
      rw [appendDigits, if_pos (hlonger.trans hn)]
      exact ih hdigits

/-- No number but zero is written with a zero in front. -/
theorem head?_toDigits_ne_zero {n : Nat} (hn : n ≠ 0) : (Nat.toDigits 10 n).head? ≠ some '0' := by
  induction n using Nat.strong_induction_on with
  | _ n ih =>
    by_cases hlt : n < 10
    · rw [Nat.toDigits_of_lt_base hlt]
      have hdigit : ∀ m < 10, m ≠ 0 → [m.digitChar].head? ≠ some '0' := by decide
      exact hdigit n hlt hn
    · have hfront := ih (n / 10) (by omega) (by omega)
      rw [Nat.toDigits_of_base_le (by decide) (by omega), List.head?_append]
      rwa [Option.or_of_isSome (List.isSome_head?.mpr Nat.toDigits_ne_nil)]

/-- All digits are taken up to the first character that is none. -/
theorem reads_takeDigits {digits : List Char} (hdigits : ∀ d ∈ digits, d.isDigit = true)
    (hs : ∀ c, s.head? = some c → c.isDigit = false) :
    (takeWhile Char.isDigit).Reads (digits ++ s) digits s := by
  have hall := reads_takeWhile Char.isDigit (digits ++ s)
  rw [List.takeWhile_append_of_pos hdigits, List.dropWhile_append_of_pos hdigits] at hall
  cases hhead : s with
  | nil => simpa [hhead] using hall
  | cons c rest =>
      have hc : c.isDigit = false := hs c (by rw [hhead]; rfl)
      simpa [hhead, hc] using hall

/-- Digits behind which the number is over. -/
theorem reads_afterDigits (hs : EndsNumber s) {negative : Bool} {digits : List Char} {n : Nat}
    {x : Number} (hdigits : appendDigits 0 digits = (n, 0))
    (hwhole : (whole negative n).Reads s x s) : (afterDigits negative digits).Reads s x s := by
  rw [afterDigits, hdigits]
  refine (reads_peek? s).bind ?_
  split
  · rename_i heq
    exact absurd rfl (hs _ heq).2.1
  · rename_i heq
    exact absurd rfl (hs _ heq).2.2.1
  · rename_i heq
    exact absurd rfl (hs _ heq).2.2.2
  · rw [if_pos rfl]
    exact hwhole

theorem reads_number_zero (hs : EndsNumber s) {negative : Bool} {x : Number}
    (hwhole : (whole negative 0).Reads s x s) : (number negative).Reads ('0' :: s) x s := by
  have hafter : (afterDigits negative []).Reads s x s := reads_afterDigits hs rfl hwhole
  rw [number]
  refine (reads_peek? _).bind ((reads_advance '0' s).bind ((reads_peek? s).bind ?_))
  split
  · exact hafter
  · rename_i d heq
    rw [if_neg (by simp [(hs d heq).1])]
    exact hafter

/-- The digits of a number are read as the number. -/
theorem reads_number (hs : EndsNumber s) {negative : Bool} {n : Nat} (hn : n ≤ maxSignificand)
    {x : Number} (hwhole : (whole negative n).Reads s x s) :
    (number negative).Reads (Nat.toDigits 10 n ++ s) x s := by
  by_cases hzero : n = 0
  · rw [hzero] at hwhole ⊢
    exact reads_number_zero hs hwhole
  · have hdigits : ∀ d ∈ Nat.toDigits 10 n, d.isDigit = true :=
      fun d hd => Nat.isDigit_of_mem_toDigits (by decide) (by decide) hd
    have hfirst := head?_toDigits_ne_zero hzero
    have hvalue : appendDigits 0 (Nat.toDigits 10 n) = (n, 0) :=
      appendDigits_eq Nat.ofDigitChars_ten_toDigits hn
    have htake : (takeWhile Char.isDigit).Reads (Nat.toDigits 10 n ++ s) (Nat.toDigits 10 n) s :=
      reads_takeDigits hdigits fun c hc => (hs c hc).1
    rw [number]
    refine (reads_peek? _).bind ?_
    rw [List.head?_append, Option.or_of_isSome (List.isSome_head?.mpr Nat.toDigits_ne_nil)]
    split
    · rename_i heq
      exact absurd (List.head?_eq_none_iff.mp heq) Nat.toDigits_ne_nil
    · rename_i heq
      exact absurd heq hfirst
    · rename_i d _ heq
      rw [if_pos (hdigits d (List.mem_of_mem_head? heq))]
      exact htake.bind (reads_afterDigits hs hvalue hwhole)

end Numbers

/-! ### Values -/

section Values

variable {s : List Char}

theorem chars_integer (v : Int) :
    (Json.number (.integer v)).chars =
      if 0 ≤ v then Nat.toDigits 10 v.toNat else '-' :: Nat.toDigits 10 (-v).toNat := by
  rw [chars, Number.text, Int.toString_eq_repr, Int.repr_eq_if]
  split_ifs
  · rw [Nat.toList_repr]
  · rw [String.toList_append, Nat.toList_repr]
    rfl

theorem exists_toDigits (n : Nat) : ∃ d rest, Nat.toDigits 10 n = d :: rest ∧ d.isDigit = true := by
  obtain ⟨d, rest, heq⟩ := List.exists_cons_of_ne_nil (Nat.toDigits_ne_nil (n := n) (b := 10))
  refine ⟨d, rest, heq, ?_⟩
  exact Nat.isDigit_of_mem_toDigits (by decide) (by decide) (heq ▸ List.mem_cons_self)

/-- A digit begins nothing but a number. -/
theorem ne_of_isDigit {c d : Char} (hd : d.isDigit = true) (hc : c.isDigit = false) : d ≠ c := by
  rintro rfl
  rw [hd] at hc
  exact absurd hc (by decide)

theorem isSpace_of_isDigit {d : Char} (hd : d.isDigit = true) : isSpace d = false := by
  have hne : ∀ c, c.isDigit = false → d ≠ c := fun c hc => ne_of_isDigit hd hc
  simp [isSpace, hne]

/-- The first character of a value is no space and does not end an array. -/
def StartsValue (text : List Char) : Prop :=
  ∃ c rest, text = c :: rest ∧ isSpace c = false ∧ c ≠ ']'

theorem startsValue_chars {v : Json} (hv : v.IsWhole) : StartsValue v.chars := by
  cases hv with
  | null => exact ⟨_, _, rfl, rfl, by decide⟩
  | bool b => cases b <;> exact ⟨_, _, rfl, rfl, by decide⟩
  | integer v =>
      rw [chars_integer]
      split_ifs
      · obtain ⟨d, rest, heq, hd⟩ := exists_toDigits v.toNat
        exact ⟨d, rest, heq, isSpace_of_isDigit hd, ne_of_isDigit hd rfl⟩
      · exact ⟨_, _, rfl, rfl, by decide⟩
  | string s => exact ⟨_, _, rfl, rfl, by decide⟩
  | array h => exact ⟨_, _, rfl, rfl, by decide⟩
  | object h => exact ⟨_, _, rfl, rfl, by decide⟩

variable (container : Char → Reader Json)

theorem reads_valueWith_null : (valueWith container).Reads (Json.null.chars ++ s) .null s := by
  rw [valueWith]
  refine (reads_peekPastSpace? (by decide) _).bind ?_
  exact (reads_advance 'n' _).bind ((reads_letters ['u', 'l', 'l'] s).bind (.pure _ s))

theorem reads_valueWith_bool (b : Bool) :
    (valueWith container).Reads ((Json.bool b).chars ++ s) (.bool b) s := by
  rw [valueWith]
  cases b with
  | true =>
      have hfirst := reads_peekPastSpace? (c := 't') (by decide) ('r' :: 'u' :: 'e' :: s)
      exact hfirst.bind ((reads_advance 't' _).bind
        ((reads_letters ['r', 'u', 'e'] s).bind (.pure _ s)))
  | false =>
      have hfirst := reads_peekPastSpace? (c := 'f') (by decide) ('a' :: 'l' :: 's' :: 'e' :: s)
      exact hfirst.bind ((reads_advance 'f' _).bind
        ((reads_letters ['a', 'l', 's', 'e'] s).bind (.pure _ s)))

theorem reads_valueWith_string (value : String) :
    (valueWith container).Reads ((Json.string value).chars ++ s) (.string value) s := by
  have hchars : (Json.string value).chars ++ s =
      '"' :: (value.toList.flatMap escapeChar ++ '"' :: s) := by
    simp [chars, quote]
  rw [hchars, valueWith]
  refine (reads_peekPastSpace? (by decide) _).bind ?_
  exact (reads_advance '"' _).bind ((reads_string value s).bind (.pure _ s))

theorem reads_valueWith_container {container : Char → Reader Json} {bracket : Char}
    (hbracket : bracket = '[' ∨ bracket = '\x7b') {text : List Char} {v : Json}
    (h : (container bracket).Reads (bracket :: text) v s) :
    (valueWith container).Reads (bracket :: text) v s := by
  rw [valueWith]
  rcases hbracket with rfl | rfl
  · exact (reads_peekPastSpace? (by decide) _).bind h
  · exact (reads_peekPastSpace? (by decide) _).bind h

/-- A value that begins with a digit is a number. -/
theorem valueWith_cons_digit {d : Char} (hd : d.isDigit = true) (tail : List Char) (p : Position) :
    valueWith container ⟨d :: tail, p⟩ =
      (do return Json.number (← number false)) ⟨d :: tail, p⟩ := by
  have hne : ∀ {c}, some d = some c → c.isDigit = true := fun h => Option.some.inj h ▸ hd
  rw [valueWith, bind_apply, peekPastSpace?_cons (isSpace_of_isDigit hd)]
  refine congrFun (?_ : _ = (do return Json.number (← number false) : Reader Json)) _
  split
  · rename_i h
    exact absurd h (by simp)
  · rename_i h
    exact absurd (hne h) (by decide)
  · rename_i h
    exact absurd (hne h) (by decide)
  · rename_i h
    exact absurd (hne h) (by decide)
  · rename_i h
    exact absurd (hne h) (by decide)
  · rename_i h
    exact absurd (hne h) (by decide)
  · rename_i h
    rw [if_pos (hne h)]

theorem reads_valueWith_digits (hs : EndsNumber s) {n : Nat} (hn : n ≤ maxSignificand) :
    (valueWith container).Reads (Nat.toDigits 10 n ++ s) (.number (.integer n)) s := by
  obtain ⟨d, rest, heq, hd⟩ := exists_toDigits n
  have hnumber : (number false).Reads (Nat.toDigits 10 n ++ s) (.integer n) s :=
    reads_number hs hn (.pure _ s)
  rw [heq] at hnumber ⊢
  intro p
  rw [List.cons_append, valueWith_cons_digit container hd]
  exact Reads.bind hnumber (.pure (Json.number (.integer n)) s) p

/-- A whole number of 64 bits at most is read as it is written, wherever it stands. -/
theorem reads_valueWith_integer (hs : EndsNumber s) {v : Int} (hlow : -(maxNegative : Int) ≤ v)
    (hhigh : v ≤ (maxSignificand : Int)) :
    (valueWith container).Reads ((Json.number (.integer v)).chars ++ s)
      (.number (.integer v)) s := by
  rw [chars_integer]
  split_ifs with hv
  · have hdigits := reads_valueWith_digits container hs (n := v.toNat) (by omega)
    rwa [Int.toNat_of_nonneg hv] at hdigits
  · have hbound : (-v).toNat ≤ maxNegative := by omega
    have hmax : maxNegative ≤ maxSignificand := by decide
    have hwhole : (whole true (-v).toNat).Reads s (.integer v) s := by
      have hvalue : -(((-v).toNat : Nat) : Int) = v := by omega
      rw [whole, if_pos rfl, if_neg (by simp; omega), hvalue]
      exact .pure _ s
    rw [valueWith]
    refine (reads_peekPastSpace? (c := '-') (by decide) _).bind ?_
    exact (reads_advance '-' _).bind ((reads_number hs (hbound.trans hmax) hwhole).bind (.pure _ s))

end Values

/-! ### Arrays -/

section Arrays

variable {s : List Char}

theorem itemChars_cons (item : Json) (items : List Json) :
    itemChars (item :: items) = item.chars ++ items.flatMap fun other => ',' :: other.chars := by
  induction items generalizing item with
  | nil => simp [itemChars]
  | cons next rest ih => rw [itemChars, ih, List.flatMap_cons, List.cons_append]

theorem reads_nextItem_end (first : Bool) : (nextItem first).Reads (']' :: s) false (']' :: s) :=
  (reads_peekPastSpace? (by decide) s).bind (.pure _ _)

theorem reads_nextItem_first {text : List Char} (htext : StartsValue text) (s : List Char) :
    (nextItem true).Reads (text ++ s) true (text ++ s) := by
  obtain ⟨c, rest, rfl, hspace, hbracket⟩ := htext
  rw [nextItem]
  refine (reads_peekPastSpace? hspace _).bind ?_
  split
  · rename_i heq
    exact absurd heq (by simp)
  · rename_i heq
    exact absurd (Option.some.inj heq) hbracket
  · exact .pure _ _

theorem reads_nextItem_comma {text : List Char} (htext : StartsValue text) (s : List Char) :
    (nextItem false).Reads (',' :: (text ++ s)) true (text ++ s) := by
  obtain ⟨c, rest, rfl, hspace, hbracket⟩ := htext
  rw [nextItem]
  refine (reads_peekPastSpace? (by decide) _).bind ((reads_advance ',' _).bind ?_)
  refine (reads_peekPastSpace? hspace _).bind ?_
  split
  · rename_i heq
    exact absurd heq (by simp)
  · rename_i heq
    exact absurd (Option.some.inj heq) hbracket
  · exact .pure _ _

theorem endsValue_items (items : List Json) (s : List Char) :
    EndsValue (items.flatMap (fun item => ',' :: item.chars) ++ ']' :: s) := by
  cases items with
  | nil => exact endsValue_cons (by decide) _
  | cons item rest => exact endsValue_cons (by decide) _

/-- The reader reads each of the items wherever it stands. -/
def ReadsItems (r : Reader Json) (items : List Json) : Prop :=
  ∀ item ∈ items, StartsValue item.chars ∧ ∀ s, EndsValue s → r.Reads (item.chars ++ s) item s

theorem reads_itemLoop {r : Reader Json} {items : List Json} (hitems : ReadsItems r items)
    {fuel : Nat} (hfuel : items.length < fuel) (read : List Json) :
    (itemLoop r fuel false read).Reads (items.flatMap (fun item => ',' :: item.chars) ++ ']' :: s)
      (read.reverse ++ items) s := by
  induction items generalizing fuel read with
  | nil =>
      obtain ⟨fuel, rfl⟩ := Nat.exists_eq_add_one.mpr hfuel
      rw [itemLoop, List.append_nil]
      exact (reads_nextItem_end false).bind ((reads_advance ']' s).bind (.pure _ s))
  | cons item items ih =>
      obtain ⟨fuel, rfl⟩ := Nat.exists_eq_add_one.mpr (Nat.zero_lt_of_lt hfuel)
      obtain ⟨hstart, hitem⟩ := hitems item List.mem_cons_self
      have hrest :=
        ih (fun i hi => hitems i (List.mem_cons_of_mem _ hi)) (by simpa using hfuel) (item :: read)
      rw [List.reverse_cons, List.append_assoc, List.singleton_append] at hrest
      rw [itemLoop, List.flatMap_cons, List.append_assoc, List.cons_append]
      exact (reads_nextItem_comma hstart _).bind ((hitem _ (endsValue_items items s)).bind hrest)

/-- An array is read as it is written, behind its opening bracket. -/
theorem reads_array {r : Reader Json} {items : List Json} (hitems : ReadsItems r items) :
    (array r).Reads (itemChars items ++ ']' :: s) items s := by
  rw [array]
  refine (reads_remaining _).bind ?_
  cases items with
  | nil =>
      rw [itemLoop]
      exact (reads_nextItem_end true).bind ((reads_advance ']' s).bind (.pure _ s))
  | cons item items =>
      obtain ⟨hstart, hitem⟩ := hitems item List.mem_cons_self
      have hfuel : items.length <
          (item.chars ++ (items.flatMap (fun i => ',' :: i.chars) ++ ']' :: s)).length := by
        have hlength :=
          length_le_length_flatMap (fun i : Json => List.cons_ne_nil ',' i.chars) items
        rw [List.length_append, List.length_append, List.length_cons]
        omega
      have hloop :=
        reads_itemLoop (s := s) (fun i hi => hitems i (List.mem_cons_of_mem _ hi)) hfuel [item]
      rw [itemLoop, itemChars_cons, List.append_assoc]
      exact (reads_nextItem_first hstart _).bind ((hitem _ (endsValue_items items s)).bind hloop)

end Arrays

/-! ### Objects -/

section Objects

variable {σ : Type} {s : List Char}

def memberText (m : String × Json) : List Char :=
  quote m.1 ++ ':' :: m.2.chars

theorem memberChars_cons (m : String × Json) (ms : List (String × Json)) :
    memberChars (m :: ms) = memberText m ++ ms.flatMap fun other => ',' :: memberText other := by
  induction ms generalizing m with
  | nil => simp [memberChars, memberText]
  | cons next rest ih =>
      rw [memberChars, ih, List.flatMap_cons]
      simp [memberText]

theorem endsValue_members (ms : List (String × Json)) (s : List Char) :
    EndsValue (ms.flatMap (fun m => ',' :: memberText m) ++ '\x7d' :: s) := by
  cases ms with
  | nil => exact endsValue_cons (by decide) _
  | cons m rest => exact endsValue_cons (by decide) _

/-- The members lead from one state to another if each is read in the state that the ones before it
left. -/
inductive ReadsMembers (member : σ → String → Reader σ) : σ → List (String × Json) → σ → Prop
  | nil (a : σ) : ReadsMembers member a [] a
  | cons {a b c : σ} {key : String} {value : Json} {ms : List (String × Json)}
      (hmember : ∀ s, EndsValue s → (member a key).Reads (':' :: (value.chars ++ s)) b s)
      (hrest : ReadsMembers member b ms c) : ReadsMembers member a ((key, value) :: ms) c

theorem reads_nextKey_end (first : Bool) :
    (nextKey first).Reads ('\x7d' :: s) false ('\x7d' :: s) :=
  (reads_peekPastSpace? (by decide) s).bind (.pure _ _)

theorem reads_nextKey_first : (nextKey true).Reads ('"' :: s) true ('"' :: s) :=
  (reads_peekPastSpace? (by decide) s).bind (.pure _ _)

theorem reads_nextKey_comma : (nextKey false).Reads (',' :: '"' :: s) true ('"' :: s) :=
  (reads_peekPastSpace? (by decide) _).bind
    ((reads_advance ',' _).bind ((reads_peekPastSpace? (by decide) s).bind (.pure _ _)))

theorem reads_colon : colon.Reads (':' :: s) () s :=
  (reads_peekPastSpace? (by decide) s).bind (reads_advance ':' s)

theorem memberText_append (m : String × Json) (s : List Char) :
    memberText m ++ s =
      '"' :: (m.1.toList.flatMap escapeChar ++ '"' :: ':' :: (m.2.chars ++ s)) := by
  simp [memberText, quote]

theorem reads_memberLoop {member : σ → String → Reader σ} {a c : σ} {ms : List (String × Json)}
    (h : ReadsMembers member a ms c) {fuel : Nat} (hfuel : ms.length < fuel) :
    (memberLoop member fuel false a).Reads
      (ms.flatMap (fun m => ',' :: memberText m) ++ '\x7d' :: s) c
      ('\x7d' :: s) := by
  induction h generalizing fuel with
  | nil a =>
      obtain ⟨fuel, rfl⟩ := Nat.exists_eq_add_one.mpr hfuel
      rw [memberLoop]
      exact (reads_nextKey_end false).bind (.pure _ _)
  | @cons a b c key value ms hmember hrest ih =>
      obtain ⟨fuel, rfl⟩ := Nat.exists_eq_add_one.mpr (Nat.zero_lt_of_lt hfuel)
      have hloop := ih (by simpa using hfuel)
      rw [memberLoop, List.flatMap_cons, List.append_assoc, List.cons_append, memberText_append]
      refine reads_nextKey_comma.bind ((reads_advance '"' _).bind ((reads_string key _).bind ?_))
      exact (hmember _ (endsValue_members ms s)).bind hloop

/-- Members are read one after the other up to the end of their object. -/
theorem reads_memberLoop_first {member : σ → String → Reader σ} {a c : σ}
    {ms : List (String × Json)} (h : ReadsMembers member a ms c) :
    (memberLoop member ((memberChars ms ++ '\x7d' :: s).length + 1) true a).Reads
      (memberChars ms ++ '\x7d' :: s)
      c ('\x7d' :: s) := by
  cases h with
  | nil =>
      rw [memberLoop]
      exact (reads_nextKey_end true).bind (.pure _ _)
  | @cons _ b _ key value ms hmember hrest =>
      have hfuel : ms.length <
          (memberText (key, value) ++
              (ms.flatMap (fun m => ',' :: memberText m) ++ '\x7d' :: s)).length := by
        have hlength := length_le_length_flatMap (fun m => List.cons_ne_nil ',' (memberText m)) ms
        rw [List.length_append, List.length_append, List.length_cons]
        omega
      have hloop := reads_memberLoop (s := s) hrest hfuel
      rw [memberLoop, memberChars_cons, List.append_assoc]
      rw [memberText_append] at hloop ⊢
      refine reads_nextKey_first.bind ((reads_advance '"' _).bind ((reads_string key _).bind ?_))
      exact (hmember _ (endsValue_members ms s)).bind hloop

theorem readsMembers_insert {r : Reader Json} {ms : List (String × Json)}
    (hms : ∀ m ∈ ms, ∀ s, EndsValue s → r.Reads (m.2.chars ++ s) m.2 s) (d : Dictionary Json) :
    ReadsMembers (fun (d : Dictionary Json) key => do colon; return d.insert key (← r)) d ms
      (ms.foldl (fun d m => d.insert m.1 m.2) d) := by
  induction ms generalizing d with
  | nil => exact .nil d
  | cons m ms ih =>
      have hm := hms m List.mem_cons_self
      exact .cons (fun s hs => reads_colon.bind ((hm s hs).bind (.pure _ _)))
        (ih (fun m' hm' => hms m' (List.mem_cons_of_mem _ hm')) _)

/-- An object with ordered keys is read as it is written, behind its opening brace. -/
theorem reads_object {r : Reader Json} {ms : List (String × Json)}
    (hkeys : ms.Pairwise (fun a b => a.1 < b.1))
    (hms : ∀ m ∈ ms, ∀ s, EndsValue s → r.Reads (m.2.chars ++ s) m.2 s) :
    (object r).Reads (memberChars ms ++ '\x7d' :: s) ⟨ms, hkeys⟩ s := by
  have hentries : ms.foldl (fun (d : Dictionary Json) m => d.insert m.1 m.2) .empty = ⟨ms, hkeys⟩ :=
    Dictionary.ofList_entries ⟨ms, hkeys⟩
  have hmembers := readsMembers_insert hms .empty
  rw [hentries] at hmembers
  rw [object]
  refine (reads_remaining _).bind ((reads_memberLoop_first hmembers).bind ?_)
  exact (reads_advance _ s).bind (.pure _ s)

end Objects

/-- A value that was kept and holds whole numbers only is read as it is written. -/
theorem reads_value {room : Nat} {v : Json} (hkept : Kept room v) (hwhole : v.IsWhole)
    {s : List Char} (hs : EndsValue s) : (value room).Reads (v.chars ++ s) v s := by
  have hleaf : ∀ {room : Nat} {v : Json} {s : List Char},
      (∀ container, (valueWith container).Reads (v.chars ++ s) v s) →
          (value room).Reads (v.chars ++ s) v s := by
    intro room v s h
    cases room with
    | zero => exact h _
    | succ room => exact h _
  induction hkept generalizing s with
  | null room => exact hleaf fun container => reads_valueWith_null container
  | bool room b => exact hleaf fun container => reads_valueWith_bool container b
  | integer room hlow hhigh =>
      exact hleaf fun container => reads_valueWith_integer container hs.endsNumber hlow hhigh
  | real room x => nomatch hwhole
  | string room text => exact hleaf fun container => reads_valueWith_string container text
  | @array room items h ih =>
      cases hwhole with
      | array hitems =>
          have hread : ReadsItems (value room) items := fun item hitem =>
            ⟨startsValue_chars (hitems item hitem),
              fun s hs => ih item hitem (hitems item hitem) hs⟩
          have htext : (Json.array items).chars ++ s = '[' :: (itemChars items ++ ']' :: s) := by
            simp [chars]
          rw [htext]
          refine reads_valueWith_container (Or.inl rfl) ((reads_advance '[' _).bind ?_)
          exact (reads_array hread).bind (.pure _ s)
  | @object room members hkeys h ih =>
      cases hwhole with
      | object hmembers =>
          have hread := reads_object (s := s) hkeys fun m hm s hs => ih m hm (hmembers m hm) hs
          have htext : (Json.object members).chars ++ s =
              '\x7b' :: (memberChars members ++ '\x7d' :: s) := by
            simp [chars]
          rw [htext]
          refine reads_valueWith_container (Or.inr rfl) ((reads_advance '\x7b' _).bind ?_)
          exact hread.bind (.pure _ s)

end Reader

end RuleGate.Json
