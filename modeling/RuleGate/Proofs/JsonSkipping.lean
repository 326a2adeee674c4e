import RuleGate.Proofs.JsonOutcomes

/-! Values that are skipped. Every text of a value is gone past, however deep it is, whatever its
numbers, and whether or not its strings can be decoded. -/

namespace RuleGate.Json.Reader

/-! ### Strings -/

section Strings

theorem reads_skipEscape_short {letter c : Char} (h : shortEscape? letter = some c)
    (s : List Char) : skipEscape.Reads (letter :: s) () s := by
  rw [skipEscape]
  refine (reads_peek? _).bind ?_
  rw [List.head?_cons]
  split
  · rename_i heq
    exact absurd heq (by simp)
  · rename_i heq
    exact absurd (Option.some.inj heq) (ne_u_of_shortEscape? h)
  · rename_i heq
    rw [← Option.some.inj heq, h]
    exact reads_advance letter s

/-- A number is gone past, whichever number it is. -/
theorem reads_skipEscape_unit {digits : List Char} {n : Nat} (h : IsHex digits n) (s : List Char) :
    skipEscape.Reads ('u' :: (digits ++ s)) () s := by
  rw [skipEscape]
  refine (reads_peek? _).bind ((reads_advance 'u' _).bind ?_)
  exact (reads_fourHexDigits_of_isHex h s).bind (.pure () s)

theorem reads_skipStringLoop_escape {fuel : Nat} {s t u : List Char}
    (hescape : skipEscape.Reads s () t) (hloop : (skipStringLoop fuel).Reads t () u) :
    (skipStringLoop (fuel + 1)).Reads ('\\' :: s) () u := by
  rw [skipStringLoop]
  exact (reads_peek? _).bind ((reads_advance '\\' s).bind (hescape.bind hloop))

theorem reads_skipStringLoop {s rest : List Char} {content : Option (List Char)}
    (h : Spells s content rest) {fuel : Nat} (hfuel : s.length < fuel) :
    (skipStringLoop fuel).Reads s () rest := by
  induction h generalizing fuel with
  | close rest =>
      obtain ⟨fuel, rfl⟩ := Nat.exists_eq_add_one.mpr (Nat.zero_lt_of_lt hfuel)
      rw [skipStringLoop]
      exact (reads_peek? _).bind (reads_advance '"' rest)
  | @plain c s rest content hquote hslash hcontrol h ih =>
      obtain ⟨fuel, rfl⟩ := Nat.exists_eq_add_one.mpr (Nat.zero_lt_of_lt hfuel)
      rw [skipStringLoop]
      refine (reads_peek? _).bind ?_
      rw [List.head?_cons]
      split
      · rename_i heq
        exact absurd heq (by simp)
      · rename_i heq
        exact absurd (Option.some.inj heq) hquote
      · rename_i heq
        exact absurd (Option.some.inj heq) hslash
      · rename_i heq
        rw [← Option.some.inj heq, if_neg (Nat.not_lt.mpr hcontrol)]
        exact (reads_advance c s).bind (ih (by simpa using hfuel))
  | @short letter c s rest content hletter h ih =>
      obtain ⟨fuel, rfl⟩ := Nat.exists_eq_add_one.mpr (Nat.zero_lt_of_lt hfuel)
      have hlength : s.length < fuel := by
        simp only [List.length_cons] at hfuel
        omega
      exact reads_skipStringLoop_escape (reads_skipEscape_short hletter s) (ih hlength)
  | @unit digits s rest n content hdigits hlow hhigh h ih =>
      obtain ⟨fuel, rfl⟩ := Nat.exists_eq_add_one.mpr (Nat.zero_lt_of_lt hfuel)
      have hlength : s.length < fuel := by
        simp only [List.length_cons, List.length_append] at hfuel
        omega
      exact reads_skipStringLoop_escape (reads_skipEscape_unit hdigits s) (ih hlength)
  | @pair digits others s rest n m content hdigits hhigh hothers hlow h ih =>
      -- The two halves are two escapes here.
      simp only [List.length_cons, List.length_append] at hfuel
      obtain ⟨fuel, rfl⟩ : ∃ k, fuel = k + 1 + 1 := ⟨fuel - 2, by omega⟩
      refine reads_skipStringLoop_escape (reads_skipEscape_unit hdigits _) ?_
      refine reads_skipStringLoop_escape (reads_skipEscape_unit hothers s) (ih ?_)
      omega
  | @lone digits s rest n content hdigits hhalf h ih =>
      obtain ⟨fuel, rfl⟩ := Nat.exists_eq_add_one.mpr (Nat.zero_lt_of_lt hfuel)
      have hlength : s.length < fuel := by
        simp only [List.length_cons, List.length_append] at hfuel
        omega
      exact reads_skipStringLoop_escape (reads_skipEscape_unit hdigits s) (ih hlength)

theorem reads_skipString {s rest : List Char} {content : Option (List Char)}
    (h : Spells s content rest) : skipString.Reads s () rest :=
  (reads_remaining s).bind (reads_skipStringLoop h (Nat.lt_succ_self _))

end Strings

/-! ### Numbers -/

section Numbers

theorem reads_skipExponent? {exponent s : List Char} (h : IsExponent exponent) (hs : EndsNumber s) :
    skipExponent?.Reads (exponent ++ s) () s := by
  rw [skipExponent?]
  cases h with
  | absent =>
      refine (reads_peek? _).bind ?_
      rw [List.nil_append]
      split
      · rename_i heq
        exact absurd rfl (hs _ heq).2.2.1
      · rename_i heq
        exact absurd rfl (hs _ heq).2.2.2
      · exact .pure () s
  | @present mark sign digits hmark hsign hdigits =>
      obtain ⟨hne, hall⟩ := hdigits
      obtain ⟨d, rest, rfl⟩ := List.exists_cons_of_ne_nil hne
      obtain ⟨below, hbelow⟩ := reads_exponentSign hsign (hall d List.mem_cons_self)
      have hexponent : skipExponent.Reads (mark :: (sign ++ d :: rest) ++ s) () s := by
        rw [skipExponent, List.cons_append, List.append_assoc]
        refine (reads_advance mark _).bind ((hbelow (rest ++ s)).bind ?_)
        exact (reads_takeDigits hall hs.not_digit).bind (.pure () s)
      refine (reads_peek? _).bind ?_
      rcases hmark with rfl | rfl
      · exact hexponent
      · exact hexponent

/-- What follows the whole part of a number. -/
theorem reads_skipNumber_end {fraction exponent s : List Char} (hfraction : IsFraction fraction)
    (hexponent : IsExponent exponent) (hs : EndsNumber s) :
    Reads (do
      match ← peek? with
      | some '.' =>
        advance
        let digits ← takeWhile Char.isDigit
        if digits.isEmpty then failNext .invalidNumber
        skipExponent?
      | _ => skipExponent?) (fraction ++ (exponent ++ s)) () s := by
  cases hfraction with
  | absent =>
      refine (reads_peek? _).bind ?_
      rw [List.nil_append]
      split
      · rename_i heq
        cases hexponent with
        | absent => exact absurd rfl (hs _ heq).2.1
        | present hmark => rcases hmark with rfl | rfl <;> exact absurd heq (by simp)
      · exact reads_skipExponent? hexponent hs
  | @present digits hdigits =>
      obtain ⟨hne, hall⟩ := hdigits
      refine (reads_peek? _).bind ((reads_advance '.' _).bind ?_)
      refine (reads_takeDigits hall (hexponent.not_digit hs)).bind ?_
      rw [if_neg (by simpa using hne)]
      exact reads_skipExponent? hexponent hs

theorem reads_skipNumber {digits s : List Char} (h : IsUnsigned digits) (hs : EndsNumber s) :
    skipNumber.Reads (digits ++ s) () s := by
  obtain @⟨whole, f, e, hwhole, hfraction, hexponent⟩ := h
  have hafter : ∀ c, (f ++ (e ++ s)).head? = some c → c.isDigit = false :=
    hfraction.not_digit hexponent hs
  have hend := reads_skipNumber_end hfraction hexponent hs
  rw [skipNumber, List.append_assoc, List.append_assoc]
  refine (reads_peek? _).bind ?_
  cases hwhole with
  | zero =>
      refine (reads_advance '0' _).bind ((reads_peek? _).bind ?_)
      split
      · rename_i d heq
        rw [if_neg (by simp [hafter d heq])]
        exact (Reads.pure ['0'] _).bind hend
      · exact (Reads.pure ['0'] _).bind hend
  | @digits d rest hdigits hd =>
      split
      · rename_i heq
        exact absurd (Option.some.inj heq) hd
      · exact (reads_takeDigits hdigits.2 hafter).bind hend

end Numbers

/-! ### Values -/

/-- How many steps are enough to go past what is left: each takes a character, but for the one from
a bracket or a comma to the value behind it. -/
def skipSteps : SkipState → List Char → Nat
  | .value, s => 2 * s.length
  | .opened, s | .done, s => 2 * s.length + 1

/-- From the state and the open brackets on, the text is gone past up to the rest. -/
def SkipsTo (state : SkipState) (stack s rest : List Char) : Prop :=
  ∀ fuel, skipSteps state s < fuel → (skipLoop fuel state stack).Reads s () rest

/-- The state in front of an element that is the first one or not. -/
def beforeElement : Bool → SkipState
  | true => .opened
  | false => .done

section Values

variable {stack s rest u : List Char}

theorem skipSteps_le (state : SkipState) (s : List Char) :
    skipSteps state s ≤ 2 * s.length + 1 := by
  cases state <;> simp only [skipSteps] <;> omega

theorem skipSteps_beforeElement (first : Bool) (s : List Char) :
    skipSteps (beforeElement first) s = 2 * s.length + 1 := by
  cases first <;> rfl

theorem skipsTo_done_nil (s : List Char) : SkipsTo .done [] s s := by
  intro fuel hfuel
  obtain ⟨fuel, rfl⟩ := Nat.exists_eq_add_one.mpr (Nat.zero_lt_of_lt hfuel)
  rw [skipLoop]
  exact .pure () s

/-- One step from a value on, which may have space before it. -/
theorem skipsTo_value {state : SkipState} {inner s₀ : List Char} (hspace : Space s₀ s)
    (hstart : StartsValue s) (hshorter : rest.length < s.length)
    (hrest : SkipsTo state inner rest u)
    (hstep : ∀ fuel, (skipLoop fuel state inner).Reads rest () u →
      (skipLoop (fuel + 1) .value stack).Reads s () u) : SkipsTo .value stack s₀ u := by
  intro fuel hfuel
  obtain ⟨fuel, rfl⟩ := Nat.exists_eq_add_one.mpr (Nat.zero_lt_of_lt hfuel)
  have henough : skipSteps state rest < fuel := by
    have hspace := hspace.length_le
    have hsteps := skipSteps_le state rest
    rw [skipSteps] at hfuel
    omega
  have hvalue := hstep fuel (hrest fuel henough)
  obtain ⟨c, tail, rfl, hc, _⟩ := hstart
  rw [skipLoop] at hvalue ⊢
  exact Goes.of_space (o := some ()) hspace hc hvalue

theorem reads_skipKey {s s₁ s₂ s₃ : List Char} {key : Option (List Char)} (h : Space s ('"' :: s₁))
    (hkey : Spells s₁ key s₂) (hcolon : Space s₂ (':' :: s₃)) : skipKey.Reads s () s₃ :=
  (reads_peekPastSpace?_cons h (by decide)).bind
    ((reads_advance '"' s₁).bind ((reads_skipString hkey).bind (reads_colon_of_space hcolon)))

/-- Behind the last element, the bracket that closes is gone past. -/
theorem skipsTo_close {bracket close : Char}
    (hbracket : bracket = '[' ∧ close = ']' ∨ bracket = '\x7b' ∧ close = '\x7d') (first : Bool)
    (h : Space s (close :: rest)) (hrest : SkipsTo .done stack rest u) :
    SkipsTo (beforeElement first) (bracket :: stack) s u := by
  intro fuel hfuel
  obtain ⟨fuel, rfl⟩ := Nat.exists_eq_add_one.mpr (Nat.zero_lt_of_lt hfuel)
  have henough : skipSteps .done rest < fuel := by
    have hspace := h.length_le
    rw [skipSteps_beforeElement] at hfuel
    rw [List.length_cons] at hspace
    rw [skipSteps]
    omega
  have hclosed : Reads (do advance; skipLoop fuel .done stack) (close :: rest) () u :=
    (reads_advance close rest).bind (hrest fuel henough)
  rcases hbracket with ⟨rfl, rfl⟩ | ⟨rfl, rfl⟩
  · cases first with
    | true => exact (reads_peekPastSpace?_cons h (by decide)).bind hclosed
    | false => exact (reads_peekPastSpace?_cons h (by decide)).bind hclosed
  · cases first with
    | true => exact (reads_peekPastSpace?_cons h (by decide)).bind hclosed
    | false => exact (reads_peekPastSpace?_cons h (by decide)).bind hclosed

/-- An item is a value behind what separates it. -/
theorem skipsTo_item {first : Bool} {s₁ : List Char} (h : Separated first s s₁)
    (hstart : StartsValue s₁) (hvalue : ∀ s₀, Space s₀ s₁ → SkipsTo .value ('[' :: stack) s₀ u) :
    SkipsTo (beforeElement first) ('[' :: stack) s u := by
  intro fuel hfuel
  obtain ⟨fuel, rfl⟩ := Nat.exists_eq_add_one.mpr (Nat.zero_lt_of_lt hfuel)
  rw [skipSteps_beforeElement] at hfuel
  cases first with
  | true =>
      have hlength := Space.length_le h
      have hnext := hvalue s₁ (.refl _) fuel (by rw [skipSteps]; omega)
      obtain ⟨c, tail, rfl, hc, hbracket⟩ := hstart
      refine (reads_peekPastSpace?_cons h hc).bind ?_
      have hbracket' : ¬c = if ('[' == '[') = true then ']' else '\x7d' := hbracket
      simp only [if_neg hbracket']
      exact hnext
  | false =>
      obtain ⟨t, hcomma, hspace⟩ := h
      have hlength := hcomma.length_le
      rw [List.length_cons] at hlength
      have hnext := hvalue t hspace fuel (by rw [skipSteps]; omega)
      exact (reads_peekPastSpace?_cons hcomma (by decide)).bind ((reads_advance ',' t).bind hnext)

/-- A member is a value behind what separates it, its key and a colon. -/
theorem skipsTo_member {first : Bool} {s₁ s₂ s₃ : List Char} {key : Option (List Char)}
    (h : Separated first s ('"' :: s₁)) (hkey : Spells s₁ key s₂) (hcolon : Space s₂ (':' :: s₃))
    (hvalue : SkipsTo .value ('\x7b' :: stack) s₃ u) :
    SkipsTo (beforeElement first) ('\x7b' :: stack) s u := by
  intro fuel hfuel
  obtain ⟨fuel, rfl⟩ := Nat.exists_eq_add_one.mpr (Nat.zero_lt_of_lt hfuel)
  rw [skipSteps_beforeElement] at hfuel
  have hnext : (skipLoop fuel .value ('\x7b' :: stack)).Reads s₃ () u := by
    have hlength := h.length_le
    have hkey := hkey.length_lt
    have hcolon := hcolon.length_le
    rw [List.length_cons] at hlength hcolon
    exact hvalue fuel (by rw [skipSteps]; omega)
  cases first with
  | true =>
      refine (reads_peekPastSpace?_cons h (by decide)).bind ?_
      exact (reads_skipKey (.refl _) hkey hcolon).bind hnext
  | false =>
      obtain ⟨t, hcomma, hspace⟩ := h
      refine (reads_peekPastSpace?_cons hcomma (by decide)).bind ((reads_advance ',' t).bind ?_)
      exact (reads_skipKey hspace hkey hcolon).bind hnext

/-- The part of a text up to the rest can be gone past: a value from any space before it on, and
elements from behind their bracket or the element before on. -/
def Skips : Part → List Char → List Char → Prop
  | .value _, s, rest => EndsNumber rest → ∀ stack s₀ u, Space s₀ s → SkipsTo .done stack rest u →
      SkipsTo .value stack s₀ u
  | .items first _, s, rest => ∀ stack u, SkipsTo .done stack rest u →
      SkipsTo (beforeElement first) ('[' :: stack) s u
  | .members first _, s, rest => ∀ stack u, SkipsTo .done stack rest u →
      SkipsTo (beforeElement first) ('\x7b' :: stack) s u

theorem skipLoop_cons_digit {d : Char} (hd : d.isDigit = true) (fuel : Nat) (stack s : List Char)
    (p : Position) :
    skipLoop (fuel + 1) .value stack ⟨d :: s, p⟩ =
      (do skipNumber; skipLoop fuel .done stack) ⟨d :: s, p⟩ := by
  have hne : ∀ {c}, some d = some c → c.isDigit = true := fun h => Option.some.inj h ▸ hd
  rw [skipLoop, bind_apply, peekPastSpace?_cons (isSpace_of_isDigit hd)]
  refine congrFun (?_ : _ = (do skipNumber; skipLoop fuel .done stack : Reader Unit)) _
  split
  · rename_i h
    exact absurd h (by simp)
  · rename_i h
    exact absurd (hne h) (by decide)
  · rename_i h
    exact absurd (hne h) (by decide)
  · rename_i h
    exact absurd (hne h) (by decide)
  · rename_i h
    exact absurd (hne h) (by decide)
  · rename_i h
    exact absurd (hne h) (by decide)
  · rename_i h
    rw [if_pos (hne h)]

theorem skips_of_part {part : Part} (h : Says s part rest) : Skips part s rest := by
  have hstated := h
  induction h with
  | null rest =>
      intro _ stack s₀ u hspace hrest
      refine skipsTo_value hspace hstated.startsValue hstated.length_lt hrest fun fuel hdone => ?_
      refine (reads_peekPastSpace? (by decide) _).bind ((reads_advance 'n' _).bind ?_)
      exact (reads_letters ['u', 'l', 'l'] rest).bind hdone
  | truth rest =>
      intro _ stack s₀ u hspace hrest
      refine skipsTo_value hspace hstated.startsValue hstated.length_lt hrest fun fuel hdone => ?_
      refine (reads_peekPastSpace? (by decide) _).bind ((reads_advance 't' _).bind ?_)
      exact (reads_letters ['r', 'u', 'e'] rest).bind hdone
  | falsity rest =>
      intro _ stack s₀ u hspace hrest
      refine skipsTo_value hspace hstated.startsValue hstated.length_lt hrest fun fuel hdone => ?_
      refine (reads_peekPastSpace? (by decide) _).bind ((reads_advance 'f' _).bind ?_)
      exact (reads_letters ['a', 'l', 's', 'e'] rest).bind hdone
  | @natural digits h rest =>
      intro hends stack s₀ u hspace hrest
      refine skipsTo_value hspace hstated.startsValue hstated.length_lt hrest fun fuel hdone => ?_
      have hnumber : Reads (do skipNumber; skipLoop fuel .done stack) (digits ++ rest) () u :=
        (reads_skipNumber h hends).bind hdone
      obtain ⟨d, tail, rfl, hd⟩ := h.exists_digit
      exact Goes.congr (o := some ()) (skipLoop_cons_digit hd fuel stack _) hnumber
  | negative h rest =>
      intro hends stack s₀ u hspace hrest
      refine skipsTo_value hspace hstated.startsValue hstated.length_lt hrest fun fuel hdone => ?_
      refine (reads_peekPastSpace? (by decide) _).bind ((reads_advance '-' _).bind ?_)
      exact (reads_skipNumber h hends).bind hdone
  | string h =>
      intro _ stack s₀ u hspace hrest
      refine skipsTo_value hspace hstated.startsValue hstated.length_lt hrest fun fuel hdone => ?_
      refine (reads_peekPastSpace? (by decide) _).bind ((reads_advance '"' _).bind ?_)
      exact (reads_skipString h).bind hdone
  | @array s rest ts h ih =>
      intro _ stack s₀ u hspace hrest
      refine skipsTo_value hspace hstated.startsValue (Nat.lt_succ_self s.length)
        (ih h stack u hrest) ?_
      intro fuel hopened
      exact (reads_peekPastSpace? (by decide) _).bind ((reads_advance '[' _).bind hopened)
  | @object s rest ms h ih =>
      intro _ stack s₀ u hspace hrest
      refine skipsTo_value hspace hstated.startsValue (Nat.lt_succ_self s.length)
        (ih h stack u hrest) ?_
      intro fuel hopened
      exact (reads_peekPastSpace? (by decide) _).bind ((reads_advance '\x7b' _).bind hopened)
  | endOfItems first h => exact fun stack u hrest => skipsTo_close (Or.inl ⟨rfl, rfl⟩) first h hrest
  | endOfMembers first h =>
      exact fun stack u hrest => skipsTo_close (Or.inr ⟨rfl, rfl⟩) first h hrest
  | item hseparated hitem htail ihitem ihrest =>
      intro stack u hrest
      have hends := htail.endsNumber (Or.inl ⟨_, rfl⟩)
      refine skipsTo_item hseparated hitem.startsValue fun s₀ hspace => ?_
      exact ihitem hitem hends _ s₀ u hspace (ihrest htail stack u hrest)
  | member hseparated hkey hcolon hspace hvalue htail ihvalue ihrest =>
      intro stack u hrest
      have hends := htail.endsNumber (Or.inr ⟨_, rfl⟩)
      refine skipsTo_member hseparated hkey hcolon ?_
      exact ihvalue hvalue hends _ _ u hspace (ihrest htail stack u hrest)

/-- A value is gone past, whichever it is. -/
theorem reads_skip {s₁ : List Char} {t : Tree} (hspace : Space s s₁) (h : Says s₁ (.value t) rest)
    (hrest : EndsNumber rest) : skip.Reads s () rest := by
  have hskips : SkipsTo .value [] s rest :=
    skips_of_part h hrest [] s rest hspace (skipsTo_done_nil rest)
  exact (reads_remaining s).bind (hskips _ (by rw [skipSteps]; omega))

end Values

end RuleGate.Json.Reader
