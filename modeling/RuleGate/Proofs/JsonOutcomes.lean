import RuleGate.Proofs.JsonSyntax

/-! What the strict reader makes of a text. Whether it takes a value, and which value it gives,
rests on the tree of the text alone: neither on the space in it, nor on its escapes, nor on the
place where it stands. -/

namespace RuleGate.Json.Reader

variable {α β : Type}

/-! ### Outcomes -/

/-- The reader gives the value and leaves the rest, wherever the text stands; or it refuses the
text, wherever it stands. -/
def Goes (r : Reader α) (s : List Char) : Option α → List Char → Prop
  | some a, rest => r.Reads s a rest
  | none, _ => ∀ p : Position, ∃ e, r ⟨s, p⟩ = .error e

section Goes

variable {r : Reader α} {s t u : List Char}

theorem Goes.bind {next : α → Reader β} {o : Option α} {f : α → Option β} (hr : r.Goes s o t)
    (hnext : ∀ a, o = some a → (next a).Goes t (f a) u) : (r >>= next).Goes s (o.bind f) u := by
  cases o with
  | some a =>
      rw [Option.bind_some]
      cases hb : f a with
      | some b =>
          have hsecond := hnext a rfl
          rw [hb] at hsecond
          exact Reads.bind hr hsecond
      | none =>
          have hsecond := hnext a rfl
          rw [hb] at hsecond
          intro p
          obtain ⟨p', hp'⟩ := hr p
          obtain ⟨e, he⟩ := hsecond p'
          refine ⟨e, ?_⟩
          rw [bind_apply, hp']
          exact he
  | none =>
      intro p
      obtain ⟨e, he⟩ := hr p
      refine ⟨e, ?_⟩
      rw [bind_apply, he]
      rfl

/-- What is refused at the first step is refused. -/
theorem Goes.bind_none {next : α → Reader β} (hr : r.Goes s none t) : (r >>= next).Goes s none u :=
  hr.bind (f := fun _ => none) (by simp)

/-- A step that is sure to be taken does not change the outcome. -/
theorem Reads.bindGoes {next : α → Reader β} {a : α} {o : Option β} (hr : r.Reads s a t)
    (hnext : (next a).Goes t o u) : (r >>= next).Goes s o u :=
  Goes.bind (o := some a) (f := fun _ => o) hr fun b hb => by
    rw [← Option.some.inj hb]
    exact hnext

theorem Goes.congr {r' : Reader α} {o : Option α} (h : ∀ p, r ⟨s, p⟩ = r' ⟨s, p⟩)
    (hr : r'.Goes s o t) : r.Goes s o t := by
  cases o with
  | some a =>
      intro p
      rw [h]
      exact hr p
  | none =>
      intro p
      rw [h]
      exact hr p

theorem Goes.map {o : Option α} (hr : r.Goes s o t) (f : α → β) :
    (do let a ← r; pure (f a)).Goes s (o.map f) t := by
  rw [Option.map_eq_bind]
  exact hr.bind fun a _ => Reads.pure (f a) t

theorem goes_fail (cause : Cause) (s t : List Char) : (fail cause : Reader α).Goes s none t :=
  fun _ => ⟨_, rfl⟩

theorem goes_failNext (cause : Cause) (s t : List Char) :
    (failNext cause : Reader α).Goes s none t :=
  fun _ => ⟨_, rfl⟩

/-- What ends with a failure is refused. -/
theorem goes_none_of_bind {next : α → Reader β} (hnext : ∀ a c, ∃ e, next a c = .error e)
    (r : Reader α) (s t : List Char) : (r >>= next).Goes s none t := by
  intro p
  rw [bind_apply]
  cases r ⟨s, p⟩ with
  | error e => exact ⟨e, rfl⟩
  | ok x => exact hnext x.1 x.2

end Goes

/-! ### Space -/

/-- Space is gone past, and the character behind it is shown. -/
theorem reads_peekPastSpace?_of_space {s rest : List Char} (h : Space s rest)
    (hrest : ∀ c, rest.head? = some c → isSpace c = false) :
    peekPastSpace?.Reads s rest.head? rest := by
  obtain ⟨space, hspace, rfl⟩ := h
  have htake := reads_takeWhile isSpace (space ++ rest)
  have hdrop : rest.dropWhile isSpace = rest := by
    cases rest with
    | nil => rfl
    | cons c rest => rw [List.dropWhile_cons_of_neg (by simp [hrest c rfl])]
  rw [List.dropWhile_append_of_pos hspace, hdrop] at htake
  exact htake.bind (reads_peek? rest)

theorem reads_peekPastSpace?_cons {c : Char} {s rest : List Char} (h : Space s (c :: rest))
    (hc : isSpace c = false) : peekPastSpace?.Reads s (some c) (c :: rest) :=
  reads_peekPastSpace?_of_space h fun d hd => by rwa [← Option.some.inj hd]

theorem reads_colon_of_space {s rest : List Char} (h : Space s (':' :: rest)) :
    colon.Reads s () rest :=
  (reads_peekPastSpace?_cons h (by decide)).bind (reads_advance ':' rest)

/-- Space may come first where a reader begins by going past it. -/
theorem Goes.of_space {next : Option Char → Reader α} {s tail t : List Char} {c : Char}
    {o : Option α} (h : Space s (c :: tail)) (hc : isSpace c = false)
    (hgoes : (peekPastSpace? >>= next).Goes (c :: tail) o t) :
    (peekPastSpace? >>= next).Goes s o t := by
  have hnext : (next (some c)).Goes (c :: tail) o t := by
    refine Goes.congr (fun p => ?_) hgoes
    rw [bind_apply, peekPastSpace?_cons hc]
    rfl
  exact (reads_peekPastSpace?_cons h hc).bindGoes hnext

theorem Goes.toOption_map {r : Reader α} {s t : List Char} {o : Option α} (h : r.Goes s o t)
    (p : Position) : ((r ⟨s, p⟩).map Prod.fst).toOption = o := by
  cases o with
  | some a =>
      obtain ⟨p', hp'⟩ := h p
      rw [hp']
      rfl
  | none =>
      obtain ⟨e, he⟩ := h p
      rw [he]
      rfl

/-- A text is taken as a whole if space at most follows what is read. -/
theorem Goes.toOption_whole? {r : Reader α} {text : String} {rest : List Char} {o : Option α}
    (hr : r.Goes text.toList o rest) (hrest : Space rest []) : (whole? r text).toOption = o := by
  have hend : peekPastSpace?.Reads rest none [] := reads_peekPastSpace?_of_space hrest (by simp)
  have hsame : o.bind some = o := by cases o <;> rfl
  rw [whole?, Cursor.start]
  refine Goes.toOption_map (t := []) ?_ ⟨1, 0⟩
  rw [← hsame]
  exact hr.bind fun a _ => hend.bind (Reads.pure a [])

/-! ### Strings -/

section Strings

theorem isLowSurrogate_eq_false_of_isHighSurrogate {n : Nat} (h : isHighSurrogate n = true) :
    isLowSurrogate n = false := by
  simp only [isHighSurrogate, isLowSurrogate, Bool.and_eq_true, decide_eq_true_eq,
    Bool.and_eq_false_iff, decide_eq_false_iff_not] at h ⊢
  omega

theorem utf8Size_of_hexValue? {c : Char} (h : (Text.hexValue? c).isSome) : c.utf8Size = 1 := by
  have hsmall : c.val ≤ 0x7F := by
    rw [Text.hexValue?] at h
    split_ifs at h with hdigit hlower hupper
    · simp only [Char.isDigit, Bool.and_eq_true, decide_eq_true_eq] at hdigit
      exact UInt32.le_trans hdigit.2 (by decide)
    · exact UInt32.le_trans hlower.2 (by decide)
    · exact UInt32.le_trans hupper.2 (by decide)
    · exact absurd h (by simp)
  exact Char.utf8Size_eq_one_iff.mpr hsmall

theorem byteCount_of_hexNumber? {digits : List Char} {n : Nat}
    (h : Text.hexNumber? digits = some n) : Text.byteCount digits = digits.length := by
  rw [Text.hexNumber?] at h
  generalize 0 = k at h
  induction digits generalizing k with
  | nil => rfl
  | cons d rest ih =>
      rw [List.foldlM_cons] at h
      obtain ⟨m, hm, hrest⟩ := Option.bind_eq_some_iff.mp h
      obtain ⟨v, hv, _⟩ := Option.map_eq_some_iff.mp hm
      rw [Text.byteCount, utf8Size_of_hexValue? (by rw [hv]; rfl), ih m hrest, List.length_cons,
        Nat.add_comm]

theorem reads_fourHexDigits_of_isHex {digits : List Char} {n : Nat} (h : IsHex digits n)
    (s : List Char) : fourHexDigits.Reads (digits ++ s) n s :=
  reads_fourHexDigits h.length ((byteCount_of_hexNumber? h.value).trans h.length) h.value s

theorem goes_pairLetter_of_ne {letter c : Char} (h : c ≠ letter) (s t : List Char) :
    (pairLetter letter).Goes (c :: s) none t := by
  rw [pairLetter]
  refine (reads_peek? _).bindGoes ?_
  simp only [List.head?_cons, if_neg h]
  exact goes_failNext _ _ _

theorem reads_pairLetter (letter : Char) (s : List Char) :
    (pairLetter letter).Reads (letter :: s) () s := by
  rw [pairLetter]
  refine (reads_peek? _).bind ?_
  simp only [List.head?_cons, if_true]
  exact reads_advance letter s

theorem ne_u_of_shortEscape? {letter c : Char}
    (h : shortEscape? letter = some c) : letter ≠ 'u' := by
  rintro rfl
  have hnone : shortEscape? 'u' = none := rfl
  rw [hnone] at h
  exact absurd h (by simp)

/-- An escape by a number that is no half of a surrogate pair. -/
theorem reads_escape_unit {digits : List Char} {n : Nat} (hdigits : IsHex digits n)
    (hlow : isLowSurrogate n = false) (hhigh : isHighSurrogate n = false) (s : List Char) :
    escape.Reads ('u' :: (digits ++ s)) (Char.ofNat n) s := by
  have hhex : hexEscape.Reads (digits ++ s) (Char.ofNat n) s := by
    rw [hexEscape]
    refine (reads_fourHexDigits_of_isHex hdigits s).bind ?_
    rw [hlow, hhigh]
    exact .pure _ s
  rw [escape]
  exact (reads_peek? _).bind ((reads_advance 'u' _).bind hhex)

theorem reads_escape_pair {digits others : List Char} {n m : Nat} (hdigits : IsHex digits n)
    (hhigh : isHighSurrogate n = true) (hothers : IsHex others m) (hlow : isLowSurrogate m = true)
    (s : List Char) :
    escape.Reads ('u' :: (digits ++ '\\' :: 'u' :: (others ++ s)))
      (Char.ofNat (0x10000 + (n - 0xD800) * 0x400 + (m - 0xDC00))) s := by
  have hhex : hexEscape.Reads (digits ++ '\\' :: 'u' :: (others ++ s))
      (Char.ofNat (0x10000 + (n - 0xD800) * 0x400 + (m - 0xDC00))) s := by
    rw [hexEscape]
    refine (reads_fourHexDigits_of_isHex hdigits _).bind ?_
    rw [isLowSurrogate_eq_false_of_isHighSurrogate hhigh, hhigh]
    refine (reads_pairLetter '\\' _).bind ((reads_pairLetter 'u' _).bind ?_)
    refine (reads_fourHexDigits_of_isHex hothers s).bind ?_
    rw [hlow]
    exact .pure _ s
  rw [escape]
  exact (reads_peek? _).bind ((reads_advance 'u' _).bind hhex)

/-- Behind the first half of a surrogate pair nothing but the second half is taken. -/
theorem goes_escape_lone {digits s rest : List Char} {n : Nat} {content : Option (List Char)}
    (hdigits : IsHex digits n)
    (hhalf : isLowSurrogate n = true ∨ isHighSurrogate n = true ∧
      ∀ others m t, IsHex others m → isLowSurrogate m = true → s ≠ '\\' :: 'u' :: (others ++ t))
    (h : Spells s content rest) (t : List Char) : escape.Goes ('u' :: (digits ++ s)) none t := by
  have hhex : hexEscape.Goes (digits ++ s) none t := by
    rw [hexEscape]
    refine (reads_fourHexDigits_of_isHex hdigits s).bindGoes ?_
    rcases hhalf with hlow | ⟨hhigh, hno⟩
    · rw [hlow]
      exact goes_fail _ _ _
    · rw [isLowSurrogate_eq_false_of_isHighSurrogate hhigh, hhigh]
      -- What follows is the closing quote, a character, a short escape, or another number.
      have hnumber : ∀ {others rest : List Char} {m : Nat}, IsHex others m →
          isLowSurrogate m = false →
          Goes (do
            pairLetter '\\'
            pairLetter 'u'
            let m ← fourHexDigits
            if isLowSurrogate m then
              pure (Char.ofNat (0x10000 + (n - 0xD800) * 0x400 + (m - 0xDC00)))
            else fail .loneSurrogate) ('\\' :: 'u' :: (others ++ rest)) none t := by
        intro others rest m hothers hlow
        refine (reads_pairLetter '\\' _).bindGoes ((reads_pairLetter 'u' _).bindGoes ?_)
        refine (reads_fourHexDigits_of_isHex hothers _).bindGoes ?_
        rw [hlow]
        exact goes_fail _ _ _
      cases h with
      | close => exact (goes_pairLetter_of_ne (by decide) _ t).bind_none
      | plain _ hslash => exact (goes_pairLetter_of_ne hslash _ t).bind_none
      | @short letter _ s rest content hletter h =>
          refine (reads_pairLetter '\\' _).bindGoes ?_
          exact (goes_pairLetter_of_ne (ne_u_of_shortEscape? hletter) _ t).bind_none
      | unit hothers hlow => exact hnumber hothers hlow
      | pair hothers hhigh =>
          exact hnumber hothers (isLowSurrogate_eq_false_of_isHighSurrogate hhigh)
      | @lone others s rest m content hothers hhalf =>
          refine hnumber hothers ?_
          by_contra hlow
          exact hno others m s hothers (by simpa using hlow) rfl
  rw [escape]
  exact (reads_peek? _).bindGoes ((reads_advance 'u' _).bindGoes hhex)

/-- One escape of a string. -/
theorem goes_stringLoop_escape {fuel : Nat} {read s t u : List Char} {c : Char} {o : Option String}
    (hc : escape.Reads s c t) (hloop : (stringLoop fuel (c :: read)).Goes t o u) :
    (stringLoop (fuel + 1) read).Goes ('\\' :: s) o u := by
  rw [stringLoop]
  exact (reads_peek? _).bindGoes ((reads_advance '\\' s).bindGoes (hc.bindGoes hloop))

theorem map_spelled (content : Option (List Char)) (c : Char) (read : List Char) :
    (content.map (c :: ·)).map (fun cs => String.ofList (read.reverse ++ cs)) =
      content.map fun cs => String.ofList ((c :: read).reverse ++ cs) := by
  simp [Function.comp_def]

theorem goes_stringLoop {s rest : List Char} {content : Option (List Char)}
    (h : Spells s content rest) {fuel : Nat} (hfuel : s.length < fuel) (read : List Char) :
    (stringLoop fuel read).Goes s
      (content.map fun cs => String.ofList (read.reverse ++ cs)) rest := by
  induction h generalizing fuel read with
  | close rest =>
      obtain ⟨fuel, rfl⟩ := Nat.exists_eq_add_one.mpr (Nat.zero_lt_of_lt hfuel)
      rw [stringLoop, Option.map_some, List.append_nil]
      exact (reads_peek? _).bind ((reads_advance '"' rest).bind (.pure _ rest))
  | @plain c s rest content hquote hslash hcontrol h ih =>
      obtain ⟨fuel, rfl⟩ := Nat.exists_eq_add_one.mpr (Nat.zero_lt_of_lt hfuel)
      rw [stringLoop, map_spelled]
      refine (reads_peek? _).bindGoes ?_
      rw [List.head?_cons]
      split
      · rename_i heq
        exact absurd heq (by simp)
      · rename_i heq
        exact absurd (Option.some.inj heq) hquote
      · rename_i heq
        exact absurd (Option.some.inj heq) hslash
      · rename_i heq
        rw [← Option.some.inj heq, if_neg (Nat.not_lt.mpr hcontrol)]
        exact (reads_advance c s).bindGoes (ih (by simpa using hfuel) (c :: read))
  | @short letter c s rest content hletter h ih =>
      obtain ⟨fuel, rfl⟩ := Nat.exists_eq_add_one.mpr (Nat.zero_lt_of_lt hfuel)
      have hc : escape.Reads (letter :: s) c s :=
        reads_escape_short (ne_u_of_shortEscape? hletter) hletter s
      rw [map_spelled]
      refine goes_stringLoop_escape hc ?_
      exact ih (by simp only [List.length_cons] at hfuel; omega) (c :: read)
  | @unit digits s rest n content hdigits hlow hhigh h ih =>
      obtain ⟨fuel, rfl⟩ := Nat.exists_eq_add_one.mpr (Nat.zero_lt_of_lt hfuel)
      rw [map_spelled]
      refine goes_stringLoop_escape (reads_escape_unit hdigits hlow hhigh s) ?_
      exact ih (by simp only [List.length_cons, List.length_append] at hfuel; omega) _
  | @pair digits others s rest n m content hdigits hhigh hothers hlow h ih =>
      obtain ⟨fuel, rfl⟩ := Nat.exists_eq_add_one.mpr (Nat.zero_lt_of_lt hfuel)
      rw [map_spelled]
      refine goes_stringLoop_escape (reads_escape_pair hdigits hhigh hothers hlow s) ?_
      exact ih (by simp only [List.length_cons, List.length_append] at hfuel; omega) _
  | lone hdigits hhalf h ih =>
      obtain ⟨fuel, rfl⟩ := Nat.exists_eq_add_one.mpr (Nat.zero_lt_of_lt hfuel)
      have hrefused := goes_escape_lone hdigits hhalf h rest
      rw [stringLoop]
      refine (reads_peek? _).bindGoes ((reads_advance '\\' _).bindGoes ?_)
      exact hrefused.bind_none

/-- A string gives what it decodes to, or is refused if it does not. -/
theorem goes_string {s rest : List Char} {content : Option (List Char)}
    (h : Spells s content rest) : string.Goes s (content.map String.ofList) rest :=
  (reads_remaining s).bindGoes (goes_stringLoop h (Nat.lt_succ_self _) [])

end Strings

/-! ### Numbers -/

section Numbers

/-- The outcome rests on the given text alone, if nothing that would make a number longer follows
it. -/
def Settles (r : Reader α) (text : List Char) : Prop :=
  ∃ o, ∀ s, EndsNumber s → r.Goes (text ++ s) o s

theorem Settles.after {r : Reader α} {next : α → Reader β} {a : α} {text t : List Char}
    (hr : ∀ s, EndsNumber s → r.Reads (text ++ s) a (t ++ s)) (hnext : Settles (next a) t) :
    Settles (r >>= next) text := by
  obtain ⟨o, ho⟩ := hnext
  exact ⟨o, fun s hs => (hr s hs).bindGoes (ho s hs)⟩

theorem Settles.pure (a : α) : Settles (pure a) [] :=
  ⟨some a, fun s _ => Reads.pure a s⟩

theorem Settles.fail (cause : Cause) (text : List Char) : Settles (fail cause : Reader α) text :=
  ⟨none, fun _ _ => goes_fail cause _ _⟩

theorem settles_decimal (negative : Bool) (significand : Nat) (scale : Int) :
    Settles (decimal negative significand scale) [] := by
  rw [decimal]
  cases Binary64.ofDecimal? significand scale with
  | some x => exact .pure _
  | none => exact .fail _ _

theorem settles_whole (negative : Bool) (significand : Nat) :
    Settles (whole negative significand) [] := by
  rw [whole]
  split_ifs
  · exact settles_decimal _ _ _
  · exact .pure _
  · exact .pure _

/-- The digits of an exponent are gone past, or reading stops among them once they pass the greatest
value. -/
theorem reads_exponentDigits {digits : List Char} (hdigits : ∀ d ∈ digits, d.isDigit = true)
    (value : Nat) :
    ∃ o left, (o.isSome → left = []) ∧ (∀ d ∈ left, d.isDigit = true) ∧
      ∀ s fuel, EndsNumber s → digits.length ≤ fuel →
        (exponentDigits fuel value).Reads (digits ++ s) o (left ++ s) := by
  induction digits generalizing value with
  | nil =>
      refine ⟨some value, [], fun _ => rfl, List.forall_mem_nil _, fun s fuel hs _ => ?_⟩
      cases fuel with
      | zero => exact .pure _ s
      | succ fuel =>
          rw [exponentDigits]
          refine (reads_peek? s).bind ?_
          cases hhead : s.head? with
          | none => exact .pure _ s
          | some d =>
              simp only [(hs d hhead).1, Bool.false_eq_true, if_false]
              exact .pure _ s
  | cons d digits ih =>
      obtain ⟨hd, hdigits⟩ := List.forall_mem_cons.mp hdigits
      by_cases hlonger : 10 * value + (d.toNat - 0x30) ≤ maxExponent
      · obtain ⟨o, left, hsome, hleft, hreads⟩ := ih hdigits (10 * value + (d.toNat - 0x30))
        refine ⟨o, left, hsome, hleft, fun s fuel hs hfuel => ?_⟩
        obtain ⟨fuel, rfl⟩ := Nat.exists_eq_add_one.mpr (Nat.zero_lt_of_lt hfuel)
        rw [exponentDigits]
        refine (reads_peek? _).bind ?_
        simp only [List.cons_append, List.head?_cons, hd, if_true, if_pos hlonger]
        exact (reads_advance d _).bind (hreads s fuel hs (Nat.le_of_succ_le_succ hfuel))
      · refine ⟨none, digits, by simp, hdigits, fun s fuel hs hfuel => ?_⟩
        obtain ⟨fuel, rfl⟩ := Nat.exists_eq_add_one.mpr (Nat.zero_lt_of_lt hfuel)
        rw [exponentDigits]
        refine (reads_peek? _).bind ?_
        simp only [List.cons_append, List.head?_cons, hd, if_true, if_neg hlonger]
        exact (reads_advance d _).bind (.pure _ _)

theorem settles_beyondExponents (negative below : Bool) (significand : Nat) {left : List Char}
    (hleft : ∀ d ∈ left, d.isDigit = true) :
    Settles (beyondExponents negative below significand) left := by
  rw [beyondExponents]
  split_ifs
  · exact .fail _ _
  · exact .after (t := []) (fun s hs => reads_takeDigits hleft hs.not_digit) (.pure _)

theorem reads_exponentSign {sign : List Char} (hsign : sign = [] ∨ sign = ['+'] ∨ sign = ['-'])
    {d : Char} (hd : d.isDigit = true) :
    ∃ below, ∀ s, exponentSign.Reads (sign ++ d :: s) below (d :: s) := by
  rcases hsign with rfl | rfl | rfl
  · refine ⟨false, fun s => ?_⟩
    rw [exponentSign, List.nil_append]
    refine (reads_peek? _).bind ?_
    rw [List.head?_cons]
    split
    · rename_i heq
      exact absurd (Option.some.inj heq) (ne_of_isDigit hd (by decide))
    · rename_i heq
      exact absurd (Option.some.inj heq) (ne_of_isDigit hd (by decide))
    · exact .pure _ _
  · exact ⟨false, fun s => (reads_peek? _).bind ((reads_advance '+' _).bind (.pure _ _))⟩
  · exact ⟨true, fun s => (reads_peek? _).bind ((reads_advance '-' _).bind (.pure _ _))⟩

/-- The outcome of an exponent, from its letter on. -/
theorem settles_exponent (negative : Bool) (significand : Nat) (scale : Int) {mark : Char}
    {sign digits : List Char} (hsign : sign = [] ∨ sign = ['+'] ∨ sign = ['-'])
    (hdigits : IsDigits digits) :
    Settles (exponent negative significand scale) (mark :: (sign ++ digits)) := by
  obtain ⟨hne, hall⟩ := hdigits
  obtain ⟨d, rest, rfl⟩ := List.exists_cons_of_ne_nil hne
  have hd := hall d List.mem_cons_self
  obtain ⟨below, hbelow⟩ := reads_exponentSign hsign hd
  obtain ⟨o, left, hsome, hleft, hreads⟩ := reads_exponentDigits hall 0
  rw [exponent]
  refine .after (fun s _ => reads_advance mark _) ?_
  refine .after (a := below) (t := d :: rest) (fun s _ => ?_) ?_
  · rw [List.append_assoc]
    exact hbelow _
  refine .after (a := some d) (fun s _ => reads_peek? _) ?_
  simp only [hd, if_true]
  have hlength : ∀ s, (d :: rest).length ≤ (d :: rest ++ s).length := by
    intro s
    rw [List.length_append]
    exact Nat.le_add_right _ _
  cases o with
  | some value =>
      rw [hsome rfl] at hreads
      obtain ⟨o, ho⟩ :=
        settles_decimal negative significand (if below then scale - value else scale + value)
      exact ⟨o, fun s hs => (reads_remaining _).bindGoes
        ((hreads s _ hs (hlength s)).bindGoes (ho s hs))⟩
  | none =>
      obtain ⟨o, ho⟩ := settles_beyondExponents negative below significand hleft
      exact ⟨o, fun s hs => (reads_remaining _).bindGoes
        ((hreads s _ hs (hlength s)).bindGoes (ho s hs))⟩

theorem settles_fraction (negative : Bool) (significand : Nat) (scale : Int)
    {digits exponent : List Char} (hdigits : IsDigits digits) (hexponent : IsExponent exponent) :
    Settles (fraction negative significand scale) ('.' :: (digits ++ exponent)) := by
  obtain ⟨hne, hall⟩ := hdigits
  rw [fraction]
  refine .after (fun s _ => reads_advance '.' _) ?_
  refine .after (a := digits) (t := exponent) (fun s hs => ?_) ?_
  · rw [List.append_assoc]
    exact reads_takeDigits hall (hexponent.not_digit hs)
  rw [if_neg (by simpa using hne)]
  cases hexponent with
  | absent =>
      obtain ⟨o, ho⟩ := settles_decimal negative (appendDigits significand digits).1
        (scale - ((digits.length : Int) - (appendDigits significand digits).2))
      refine ⟨o, fun s hs => (reads_peek? s).bindGoes ?_⟩
      split
      · rename_i heq
        exact absurd rfl (hs _ heq).2.2.1
      · rename_i heq
        exact absurd rfl (hs _ heq).2.2.2
      · exact ho s hs
  | @present mark sign others hmark hsign hothers =>
      refine .after (a := some mark) (fun s _ => reads_peek? _) ?_
      rcases hmark with rfl | rfl
      · exact settles_exponent _ _ _ hsign hothers
      · exact settles_exponent _ _ _ hsign hothers

theorem settles_afterDigits (negative : Bool) (digits : List Char) {fraction exponent : List Char}
    (hfraction : IsFraction fraction) (hexponent : IsExponent exponent) :
    Settles (afterDigits negative digits) (fraction ++ exponent) := by
  rw [afterDigits]
  cases hfraction with
  | present hothers =>
      refine .after (a := some '.') (fun s _ => reads_peek? _) ?_
      exact settles_fraction _ _ _ hothers hexponent
  | absent =>
      cases hexponent with
      | absent =>
          have hend : Settles
              (if (appendDigits 0 digits).2 = 0 then whole negative (appendDigits 0 digits).1
              else decimal negative (appendDigits 0 digits).1 (appendDigits 0 digits).2) [] := by
            split_ifs
            · exact settles_whole _ _
            · exact settles_decimal _ _ _
          obtain ⟨o, ho⟩ := hend
          refine ⟨o, fun s hs => (reads_peek? s).bindGoes ?_⟩
          split
          · rename_i heq
            exact absurd rfl (hs _ heq).2.1
          · rename_i heq
            exact absurd rfl (hs _ heq).2.2.1
          · rename_i heq
            exact absurd rfl (hs _ heq).2.2.2
          · exact ho s hs
      | @present mark sign others hmark hsign hothers =>
          refine .after (a := some mark) (fun s _ => reads_peek? _) ?_
          rcases hmark with rfl | rfl
          · exact settles_exponent _ _ _ hsign hothers
          · exact settles_exponent _ _ _ hsign hothers

/-- Whether a number is taken, and as which number, rests on its own characters. -/
theorem settles_number (negative : Bool) {digits : List Char} (h : IsUnsigned digits) :
    Settles (number negative) digits := by
  obtain @⟨_, f, e, hwhole, hfraction, hexponent⟩ := h
  rw [number]
  cases hwhole with
  | zero =>
      obtain ⟨o, ho⟩ := settles_afterDigits negative [] hfraction hexponent
      refine .after (a := some '0') (fun s _ => reads_peek? _) ?_
      refine .after (t := f ++ e) (fun s _ => reads_advance '0' _) ?_
      refine ⟨o, fun s hs => (reads_peek? _).bindGoes ?_⟩
      split
      · exact ho s hs
      · rename_i d heq
        rw [List.append_assoc] at heq
        rw [if_neg (by simp [hfraction.not_digit hexponent hs d heq])]
        exact ho s hs
  | @digits d rest hdigits hd =>
      refine .after (a := some d) (fun s _ => reads_peek? _) ?_
      split
      · rename_i heq
        exact absurd heq (by simp)
      · rename_i heq
        exact absurd (Option.some.inj heq) hd
      · rename_i c _ heq
        rw [if_pos (Option.some.inj heq ▸ hdigits.2 d List.mem_cons_self)]
        refine .after (a := d :: rest) (t := f ++ e) (fun s hs => ?_)
          (settles_afterDigits negative _ hfraction hexponent)
        rw [List.append_assoc, List.append_assoc]
        exact reads_takeDigits hdigits.2 (hfraction.not_digit hexponent hs)

/-- The number that the characters are taken as, if they are taken. -/
def numberOf? (negative : Bool) (digits : List Char) : Option Number :=
  ((number negative ⟨digits, ⟨1, 0⟩⟩).map Prod.fst).toOption

theorem goes_number (negative : Bool) {digits s : List Char} (h : IsUnsigned digits)
    (hs : EndsNumber s) : (number negative).Goes (digits ++ s) (numberOf? negative digits) s := by
  obtain ⟨o, ho⟩ := settles_number negative h
  have halone := ho [] (by simp [EndsNumber])
  rw [List.append_nil] at halone
  rw [numberOf?, halone.toOption_map]
  exact ho s hs

end Numbers

/-! ### Values -/

/-- Where the members lead from one state, if each is taken and its key can be decoded. -/
def afterMembers {σ : Type} (step : σ → String → Tree → Option σ) :
    σ → List (Option String × Tree) → Option σ
  | a, [] => some a
  | a, (key, t) :: ms => (key.bind fun key => step a key t).bind fun b => afterMembers step b ms

/-- The value that a tree is taken as where at most `room` arrays and objects may lie inside each
other. -/
def value? : Nat → Tree → Option Json
  | _, .null => some .null
  | _, .bool b => some (.bool b)
  | _, .number negative digits => (numberOf? negative digits).map .number
  | _, .string content => content.map .string
  | 0, .array _ => none
  | 0, .object _ => none
  | room + 1, .array ts => (ts.mapM (value? room)).map .array
  | room + 1, .object ms =>
    (afterMembers (fun (d : Dictionary Json) key t => (value? room t).map (d.insert key))
      .empty ms).map fun d => .object d.entries

section Values

/-- The reader takes a value as told, wherever it stands and whatever space comes before it. -/
def Takes (r : Reader α) (take : Tree → Option α) : Prop :=
  ∀ s s₁ t rest, Space s s₁ → Says s₁ (.value t) rest → EndsNumber rest → r.Goes s (take t) rest

theorem reads_nextItem {first : Bool} {s s₁ : List Char} (h : Separated first s s₁)
    (hstart : StartsValue s₁) : (nextItem first).Reads s true s₁ := by
  obtain ⟨c, tail, rfl, hspace, hbracket⟩ := hstart
  cases first with
  | true =>
      rw [nextItem]
      refine (reads_peekPastSpace?_cons h hspace).bind ?_
      split
      · rename_i heq
        exact absurd heq (by simp)
      · rename_i heq
        exact absurd (Option.some.inj heq) hbracket
      · exact .pure _ _
  | false =>
      obtain ⟨t, hcomma, hnext⟩ := h
      rw [nextItem]
      refine (reads_peekPastSpace?_cons hcomma (by decide)).bind ((reads_advance ',' t).bind ?_)
      refine (reads_peekPastSpace?_cons hnext hspace).bind ?_
      split
      · rename_i heq
        exact absurd heq (by simp)
      · rename_i heq
        exact absurd (Option.some.inj heq) hbracket
      · exact .pure _ _

theorem goes_itemLoop {item : Reader Json} {take : Tree → Option Json} (hitem : item.Takes take)
    {ts : List Tree} {first : Bool} {s rest : List Char} (h : Says s (.items first ts) rest)
    {fuel : Nat} (hfuel : s.length < fuel) (read : List Json) :
    (itemLoop item fuel first read).Goes s ((ts.mapM take).map (read.reverse ++ ·)) rest := by
  induction ts generalizing first s fuel read with
  | nil =>
      obtain ⟨fuel, rfl⟩ := Nat.exists_eq_add_one.mpr (Nat.zero_lt_of_lt hfuel)
      cases h with
      | endOfItems _ h =>
          have hnext : (nextItem first).Reads s false (']' :: rest) :=
            (reads_peekPastSpace?_cons h (by decide)).bind (.pure _ _)
          rw [itemLoop, List.mapM_nil, Option.pure_def, Option.map_some, List.append_nil]
          exact hnext.bind ((reads_advance ']' rest).bind (.pure _ rest))
  | cons t ts ih =>
      obtain ⟨fuel, rfl⟩ := Nat.exists_eq_add_one.mpr (Nat.zero_lt_of_lt hfuel)
      cases h with
      | @item _ _ s₁ s₂ _ _ _ hseparated hvalue hrest =>
          have hlength : s₂.length < fuel := by
            have hshorter := hvalue.length_lt
            have hsep := hseparated.length_le
            omega
          have houtcome : ((t :: ts).mapM take).map (read.reverse ++ ·) =
              (take t).bind fun v => (ts.mapM take).map ((v :: read).reverse ++ ·) := by
            rw [List.mapM_cons]
            cases take t <;> cases ts.mapM take <;> simp
          rw [itemLoop, houtcome]
          refine (reads_nextItem hseparated hvalue.startsValue).bindGoes ?_
          rw [if_pos rfl]
          refine (hitem _ _ _ _ (.refl _) hvalue (hrest.endsNumber (Or.inl ⟨_, rfl⟩))).bind
            fun v _ => ?_
          exact ih hrest hlength (v :: read)

theorem goes_array {item : Reader Json} {take : Tree → Option Json} (hitem : item.Takes take)
    {ts : List Tree} {s rest : List Char} (h : Says s (.items true ts) rest) :
    (array item).Goes s (ts.mapM take) rest := by
  have hloop := goes_itemLoop hitem h (Nat.lt_succ_self _) []
  simp only [List.reverse_nil, List.nil_append, Option.map_id'] at hloop
  exact (reads_remaining s).bindGoes hloop

theorem reads_nextKey {first : Bool} {s s₁ : List Char} (h : Separated first s ('"' :: s₁)) :
    (nextKey first).Reads s true ('"' :: s₁) := by
  cases first with
  | true => exact (reads_peekPastSpace?_cons h (by decide)).bind (.pure _ _)
  | false =>
      obtain ⟨t, hcomma, hnext⟩ := h
      exact (reads_peekPastSpace?_cons hcomma (by decide)).bind
        ((reads_advance ',' t).bind
          ((reads_peekPastSpace?_cons hnext (by decide)).bind (.pure _ _)))

/-- The reader takes a member behind its key as told. -/
def TakesMember {σ : Type} (member : σ → String → Reader σ)
    (step : σ → String → Tree → Option σ) : Prop :=
  ∀ a key s s₁ s₂ t rest, Space s (':' :: s₁) → Space s₁ s₂ → Says s₂ (.value t) rest →
    EndsNumber rest →
    (member a key).Goes s (step a key t) rest

/-- Members are taken one after the other, up to the end of their object. -/
theorem goes_memberLoop {σ : Type} {member : σ → String → Reader σ}
    {step : σ → String → Tree → Option σ} (hmember : TakesMember member step)
    {ms : List (Option String × Tree)} {first : Bool} {s rest : List Char}
    (h : Says s (.members first ms) rest) {fuel : Nat} (hfuel : s.length < fuel) (a : σ) :
    (memberLoop member fuel first a).Goes s (afterMembers step a ms) ('\x7d' :: rest) := by
  induction ms generalizing first s fuel a with
  | nil =>
      obtain ⟨fuel, rfl⟩ := Nat.exists_eq_add_one.mpr (Nat.zero_lt_of_lt hfuel)
      cases h with
      | endOfMembers _ h =>
          have hnext : (nextKey first).Reads s false ('\x7d' :: rest) :=
            (reads_peekPastSpace?_cons h (by decide)).bind (.pure _ _)
          rw [memberLoop, afterMembers]
          exact hnext.bind (.pure _ _)
  | cons m ms ih =>
      obtain ⟨fuel, rfl⟩ := Nat.exists_eq_add_one.mpr (Nat.zero_lt_of_lt hfuel)
      cases h with
      | @member _ _ s₁ s₂ s₃ s₄ s₅ _ key t _ hseparated hkey hcolon hspace hvalue hrest =>
          have hlength : s₅.length < fuel := by
            have hsep := hseparated.length_le
            have hshorter := hkey.length_lt
            have hcolon := hcolon.length_le
            have hspace := hspace.length_le
            have hvalue := hvalue.length_lt
            rw [List.length_cons] at hsep hcolon
            omega
          have hends := hrest.endsNumber (Or.inr ⟨_, rfl⟩)
          rw [memberLoop, afterMembers, Option.bind_assoc]
          refine (reads_nextKey hseparated).bindGoes ?_
          rw [if_pos rfl]
          refine (reads_advance '"' s₁).bindGoes ((goes_string hkey).bind fun name _ => ?_)
          exact (hmember a name s₂ s₃ s₄ t s₅ hcolon hspace hvalue hends).bind fun b _ =>
            ih hrest hlength b

theorem goes_object {value : Reader Json} {take : Tree → Option Json} (hvalue : value.Takes take)
    {ms : List (Option String × Tree)} {s rest : List Char} (h : Says s (.members true ms) rest) :
    (object value).Goes s
      (afterMembers (fun (d : Dictionary Json) key t => (take t).map (d.insert key)) .empty ms)
      rest := by
  have hmember : TakesMember
      (fun (d : Dictionary Json) key => do colon; return d.insert key (← value))
      fun d key t => (take t).map (d.insert key) := by
    intro d key s s₁ s₂ t rest hcolon hspace hstated hrest
    exact (reads_colon_of_space hcolon).bindGoes ((hvalue _ _ _ _ hspace hstated hrest).map _)
  have hsame : ∀ o : Option (Dictionary Json), o.bind some = o := by
    intro o
    cases o <;> rfl
  rw [object]
  refine (reads_remaining s).bindGoes ?_
  rw [← hsame (afterMembers _ _ _)]
  refine (goes_memberLoop hmember h (Nat.lt_succ_self _) _).bind fun d _ => ?_
  exact (reads_advance '\x7d' rest).bind (.pure d rest)

theorem takes_valueWith {container : Char → Reader Json} {room : Nat}
    (harray : ∀ ts s rest, Says s (.items true ts) rest →
      (container '[').Goes ('[' :: s) (value? room (.array ts)) rest)
    (hobject : ∀ ms s rest, Says s (.members true ms) rest →
      (container '\x7b').Goes ('\x7b' :: s) (value? room (.object ms)) rest) :
    (valueWith container).Takes (value? room) := by
  intro s s₁ t rest hspace h hrest
  have hvalue : (valueWith container).Goes s₁ (value? room t) rest := by
    cases h with
    | null =>
        rw [value?]
        exact reads_valueWith_null container
    | truth =>
        rw [value?]
        exact reads_valueWith_bool container true
    | falsity =>
        rw [value?]
        exact reads_valueWith_bool container false
    | @natural digits h =>
        obtain ⟨d, tail, heq, hd⟩ := h.exists_digit
        have hnumber := (goes_number false h hrest).map Json.number
        rw [value?]
        rw [heq] at hnumber ⊢
        exact Goes.congr (valueWith_cons_digit container hd _) hnumber
    | @negative digits h =>
        rw [value?, valueWith]
        refine (reads_peekPastSpace? (by decide) _).bindGoes ((reads_advance '-' _).bindGoes ?_)
        exact (goes_number true h hrest).map Json.number
    | @string s rest content h =>
        rw [value?, valueWith]
        refine (reads_peekPastSpace? (by decide) _).bindGoes ((reads_advance '"' _).bindGoes ?_)
        exact (goes_string h).map Json.string
    | array h =>
        rw [valueWith]
        exact (reads_peekPastSpace? (by decide) _).bindGoes (harray _ _ _ h)
    | object h =>
        rw [valueWith]
        exact (reads_peekPastSpace? (by decide) _).bindGoes (hobject _ _ _ h)
  obtain ⟨c, tail, rfl, hc, _⟩ := h.startsValue
  rw [valueWith] at hvalue ⊢
  exact hvalue.of_space hspace hc

/-- What the strict reader makes of a value: what its tree is taken as, whatever text says the
tree. -/
theorem takes_value (room : Nat) : (value room).Takes (value? room) := by
  induction room with
  | zero =>
      exact takes_valueWith (fun _ _ _ _ => goes_failNext _ _ _)
        (fun _ _ _ _ => goes_failNext _ _ _)
  | succ room ih =>
      refine takes_valueWith (fun ts s rest h => ?_) (fun ms s rest h => ?_)
      · rw [value?]
        exact (reads_advance '[' s).bindGoes ((goes_array ih h).map Json.array)
      · rw [value?]
        exact (reads_advance '\x7b' s).bindGoes ((goes_object ih h).map _)

end Values

end RuleGate.Json.Reader
