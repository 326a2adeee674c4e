import Mathlib.Tactic.SplitIfs
import RuleGate.Json.Reader

/-! What readers of JSON go past and what they give. A reader that goes over a part of a text can be
put behind another one, whatever stands behind the two, so a text that is put together from parts is
read part by part. -/

namespace RuleGate.Json.Reader

variable {α β : Type}

/-! ### Going over a text -/

theorem bind_apply (r : Reader α) (next : α → Reader β) (c : Cursor) :
    (r >>= next) c = r c >>= fun x => next x.1 x.2 := rfl

/-- The reader goes over the beginning of a text, wherever the text stands, gives a value, and
leaves the rest. -/
def Reads (r : Reader α) (text : List Char) (a : α) (rest : List Char) : Prop :=
  ∀ p : Position, ∃ p' : Position, r ⟨text, p⟩ = .ok (a, ⟨rest, p'⟩)

section Reads

variable {s t u : List Char}

theorem Reads.pure (a : α) (s : List Char) : Reads (pure a) s a s :=
  fun p => ⟨p, rfl⟩

theorem Reads.bind {r : Reader α} {next : α → Reader β} {a : α} {b : β} (hr : r.Reads s a t)
    (hnext : (next a).Reads t b u) : (r >>= next).Reads s b u := by
  intro p
  obtain ⟨p', hp'⟩ := hr p
  obtain ⟨p'', hp''⟩ := hnext p'
  refine ⟨p'', ?_⟩
  rw [bind_apply, hp']
  exact hp''

theorem reads_peek? (s : List Char) : peek?.Reads s s.head? s :=
  fun p => ⟨p, rfl⟩

theorem reads_advance (c : Char) (s : List Char) : advance.Reads (c :: s) () s :=
  fun p => ⟨p.next c, rfl⟩

theorem reads_remaining (s : List Char) : remaining.Reads s s.length s :=
  fun p => ⟨p, rfl⟩

theorem reads_takeWhile (test : Char → Bool) (s : List Char) :
    (takeWhile test).Reads s (s.takeWhile test) (s.dropWhile test) := by
  have hfrom : ∀ (s taken : List Char) (p : Position), ∃ p',
      takeWhileFrom test s p taken =
          (taken.reverse ++ s.takeWhile test, ⟨s.dropWhile test, p'⟩) := by
    intro s
    induction s with
    | nil =>
        intro taken p
        exact ⟨p, by simp [takeWhileFrom]⟩
    | cons c rest ih =>
        intro taken p
        rw [takeWhileFrom, List.takeWhile_cons, List.dropWhile_cons]
        cases htest : test c with
        | true =>
            obtain ⟨p', hp'⟩ := ih (c :: taken) (p.next c)
            exact ⟨p', by simpa using hp'⟩
        | false => exact ⟨p, by simp⟩
  intro p
  obtain ⟨p', hp'⟩ := hfrom s [] p
  refine ⟨p', ?_⟩
  change Except.ok (takeWhileFrom test s p []) = _
  rw [hp']
  rfl

/-- No space comes first. -/
theorem peekPastSpace?_cons {c : Char} (hc : isSpace c = false) (s : List Char) (p : Position) :
    peekPastSpace? ⟨c :: s, p⟩ = .ok (some c, ⟨c :: s, p⟩) := by
  have htake : takeWhileFrom isSpace (c :: s) p [] = ([], ⟨c :: s, p⟩) := by
    rw [takeWhileFrom, hc]
    rfl
  rw [peekPastSpace?, bind_apply, takeWhile, htake]
  rfl

theorem reads_peekPastSpace? {c : Char} (hc : isSpace c = false) (s : List Char) :
    peekPastSpace?.Reads (c :: s) (some c) (c :: s) :=
  fun p => ⟨p, peekPastSpace?_cons hc s p⟩

theorem reads_letters (word : List Char) (s : List Char) :
    (letters word).Reads (word ++ s) () s := by
  induction word with
  | nil => exact .pure _ _
  | cons c rest ih =>
      rw [letters]
      refine (reads_peek? _).bind ?_
      simp only [List.cons_append, List.head?_cons, if_true]
      exact (reads_advance c _).bind ih

theorem Reads.map_eq_ok {r : Reader α} {a : α} (h : r.Reads s a t) (p : Position) :
    (r ⟨s, p⟩).map Prod.fst = .ok a := by
  obtain ⟨p', hp'⟩ := h p
  rw [hp']
  rfl

/-- A text that is read to its end is read as a whole. -/
theorem Reads.whole?_eq_ok {r : Reader α} {text : String} {a : α} (h : r.Reads text.toList a []) :
    whole? r text = .ok a := by
  have hend : peekPastSpace?.Reads [] none [] := (reads_takeWhile isSpace []).bind (reads_peek? _)
  rw [whole?, Cursor.start]
  refine Reads.map_eq_ok (t := []) ?_ ⟨1, 0⟩
  exact h.bind (hend.bind (.pure a []))

end Reads

/-- What is written for elements is at least as long as their list, if something is written for
each. -/
theorem length_le_length_flatMap {f : α → List β} (hf : ∀ a, f a ≠ []) (l : List α) :
    l.length ≤ (l.flatMap f).length := by
  induction l with
  | nil => exact Nat.zero_le _
  | cons a rest ih =>
      have hpos : 0 < (f a).length := List.length_pos_iff.mpr (hf a)
      rw [List.flatMap_cons, List.length_append, List.length_cons]
      omega

/-! ### Strings -/

section Strings

variable {s t u : List Char}

/-- Four digits that take a byte each. -/
theorem reads_fourHexDigits {digits : List Char} {n : Nat} (hlength : digits.length = 4)
    (hbytes : Text.byteCount digits = 4) (hdigits : Text.hexNumber? digits = some n)
    (s : List Char) : fourHexDigits.Reads (digits ++ s) n s := by
  intro p
  refine ⟨p.afterBytes 4 (digits ++ s), ?_⟩
  have htake : (digits ++ s).take 4 = digits := by rw [← hlength, List.take_left]
  have hdrop : (digits ++ s).drop 4 = s := by rw [← hlength, List.drop_left]
  rw [fourHexDigits]
  simp only [htake, hdrop, hbytes, hdigits, Nat.lt_irrefl, if_false]

theorem hexNumber?_escaped : ∀ n < 0x20,
    Text.byteCount ['0', '0', Text.hexDigit (n / 16), Text.hexDigit (n % 16)] = 4 ∧
      Text.hexNumber? ['0', '0', Text.hexDigit (n / 16), Text.hexDigit (n % 16)] = some n := by
  decide

theorem reads_escape_short {letter c : Char} (hletter : letter ≠ 'u')
    (h : shortEscape? letter = some c) (s : List Char) : escape.Reads (letter :: s) c s := by
  rw [escape]
  refine (reads_peek? _).bind ?_
  rw [List.head?_cons]
  split
  · rename_i heq
    exact absurd heq (by simp)
  · rename_i heq
    exact absurd (Option.some.inj heq) hletter
  · rename_i heq
    rw [← Option.some.inj heq, h]
    exact (reads_advance letter s).bind (.pure c s)

/-- A control character is escaped by its number. -/
theorem reads_escape_control {c : Char} (hc : c.toNat < 0x20) (s : List Char) :
    escape.Reads
      ('u' :: '0' :: '0' :: Text.hexDigit (c.toNat / 16) :: Text.hexDigit (c.toNat % 16) :: s)
      c s := by
  obtain ⟨hbytes, hnumber⟩ := hexNumber?_escaped c.toNat hc
  have hlow : isLowSurrogate c.toNat = false := by
    rw [isLowSurrogate]
    simp only [Bool.and_eq_false_iff, decide_eq_false_iff_not]
    omega
  have hhigh : isHighSurrogate c.toNat = false := by
    rw [isHighSurrogate]
    simp only [Bool.and_eq_false_iff, decide_eq_false_iff_not]
    omega
  have hhex : hexEscape.Reads
      (['0', '0', Text.hexDigit (c.toNat / 16), Text.hexDigit (c.toNat % 16)] ++ s) c s := by
    rw [hexEscape]
    refine (reads_fourHexDigits rfl hbytes hnumber s).bind ?_
    rw [hlow, hhigh, Char.ofNat_toNat]
    exact .pure c s
  rw [escape]
  refine (reads_peek? _).bind ?_
  exact (reads_advance 'u' _).bind hhex

/-- One step of reading a string. -/
theorem reads_stringLoop_escapeChar {fuel : Nat} {c : Char} {read : List Char} {value : String}
    (h : (stringLoop fuel (c :: read)).Reads s value t) :
    (stringLoop (fuel + 1) read).Reads (escapeChar c ++ s) value t := by
  have hescape : ∀ {rest}, escape.Reads rest c s →
      (stringLoop (fuel + 1) read).Reads ('\\' :: rest) value t := by
    intro rest hrest
    rw [stringLoop]
    refine (reads_peek? _).bind ?_
    exact (reads_advance '\\' rest).bind (hrest.bind h)
  rw [escapeChar]
  split_ifs with hquote hslash hb ht hn hf hr hcontrol
  · exact hescape (reads_escape_short (by decide) (by rw [hquote]; rfl) s)
  · exact hescape (reads_escape_short (by decide) (by rw [hslash]; rfl) s)
  · exact hescape (reads_escape_short (by decide) (by rw [hb]; rfl) s)
  · exact hescape (reads_escape_short (by decide) (by rw [ht]; rfl) s)
  · exact hescape (reads_escape_short (by decide) (by rw [hn]; rfl) s)
  · exact hescape (reads_escape_short (by decide) (by rw [hf]; rfl) s)
  · exact hescape (reads_escape_short (by decide) (by rw [hr]; rfl) s)
  · exact hescape (reads_escape_control hcontrol s)
  · rw [stringLoop]
    refine (reads_peek? _).bind ?_
    rw [List.singleton_append, List.head?_cons]
    split
    · rename_i heq
      exact absurd heq (by simp)
    · rename_i heq
      exact absurd (Option.some.inj heq) hquote
    · rename_i heq
      exact absurd (Option.some.inj heq) hslash
    · rename_i heq
      rw [← Option.some.inj heq, if_neg hcontrol]
      exact (reads_advance c s).bind h

theorem reads_stringLoop (cs : List Char) {fuel : Nat} (hfuel : cs.length < fuel)
    (read s : List Char) :
    (stringLoop fuel read).Reads (cs.flatMap escapeChar ++ '"' :: s)
      (String.ofList (read.reverse ++ cs)) s := by
  induction cs generalizing fuel read with
  | nil =>
      obtain ⟨fuel, rfl⟩ := Nat.exists_eq_add_one.mpr hfuel
      rw [stringLoop]
      refine (reads_peek? _).bind ?_
      rw [List.append_nil]
      exact (reads_advance '"' s).bind (.pure _ s)
  | cons c cs ih =>
      obtain ⟨fuel, rfl⟩ := Nat.exists_eq_add_one.mpr (Nat.zero_lt_of_lt hfuel)
      have hrest := ih (by simpa using hfuel) (c :: read)
      rw [List.reverse_cons, List.append_assoc, List.singleton_append] at hrest
      rw [List.flatMap_cons, List.append_assoc]
      exact reads_stringLoop_escapeChar hrest

theorem escapeChar_ne_nil (c : Char) : escapeChar c ≠ [] := by
  rw [escapeChar]
  split_ifs <;> exact List.cons_ne_nil _ _

/-- A string is read as it is written, behind its opening quote. -/
theorem reads_string (value : String) (s : List Char) :
    string.Reads (value.toList.flatMap escapeChar ++ '"' :: s) value s := by
  have hfuel : value.toList.length < (value.toList.flatMap escapeChar ++ '"' :: s).length + 1 := by
    rw [List.length_append]
    exact Nat.lt_succ_of_le (Nat.le_add_right_of_le (length_le_length_flatMap escapeChar_ne_nil _))
  have hloop := reads_stringLoop value.toList hfuel [] s
  rw [List.reverse_nil, List.nil_append, String.ofList_toList] at hloop
  exact (reads_remaining _).bind hloop

end Strings

end RuleGate.Json.Reader
