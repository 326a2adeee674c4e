import Mathlib.Data.List.DropRight
import Mathlib.Data.List.Infix
import RuleGate.Text.Lines

/-! What trimming and cutting do to a text: which part of it they give, and when they give it back
as it stands. -/

namespace RuleGate.Text

/-! ### Endings -/

theorem endsWith_iff {ending s : String} :
    s.endsWith ending = true ↔ ending.toList <:+ s.toList := by
  rw [← String.endsWith_toSlice, String.Slice.endsWith_string_iff, String.copy_toSlice]

/-! ### Trimming -/

theorem trimEnd_eq_rdropWhile (s : List Char) : trimEnd s = s.rdropWhile isBlank := rfl

theorem trim_isInfix (s : List Char) : trim s <:+: s := by
  have hend : trim s <+: trimStart s := List.rdropWhile_prefix isBlank (trimStart s)
  exact hend.isInfix.trans (List.dropWhile_suffix isBlank).isInfix

theorem trimEnd_append_cons {c : Char} (hc : isBlank c = false) (a b : List Char) :
    trimEnd (a ++ c :: b) = a ++ c :: trimEnd b := by
  rw [trimEnd, List.reverse_append, List.reverse_cons, List.append_assoc, List.dropWhile_append]
  cases hb : (b.reverse.dropWhile isBlank).isEmpty with
  | true => simp [trimEnd, hc, List.isEmpty_iff.mp hb]
  | false => simp [trimEnd]

theorem trimEnd_cons {c : Char} (hc : isBlank c = false) (s : List Char) :
    trimEnd (c :: s) = c :: trimEnd s :=
  trimEnd_append_cons hc [] s

theorem trim_cons {c : Char} (hc : isBlank c = false) (s : List Char) :
    trim (c :: s) = c :: trimEnd s := by
  rw [trim, trimStart, List.dropWhile_cons_of_neg (by simp [hc]), trimEnd_cons hc]

theorem trim_cons_of_blank {c : Char} (hc : isBlank c = true) (s : List Char) :
    trim (c :: s) = trim s := by
  rw [trim, trim, trimStart, trimStart, List.dropWhile_cons_of_pos hc]

/-- Around a character that is not blank the two sides are trimmed apart. -/
theorem trim_append_cons {c : Char} (hc : isBlank c = false) (a b : List Char) :
    trim (a ++ c :: b) = trimStart a ++ c :: trimEnd b := by
  have hstart : trimStart (a ++ c :: b) = trimStart a ++ c :: b := by
    rw [trimStart, trimStart, List.dropWhile_append]
    cases ha : (a.dropWhile isBlank).isEmpty with
    | true => simp [hc, List.isEmpty_iff.mp ha]
    | false => simp
  rw [trim, hstart, trimEnd_append_cons hc]

/-- A text that neither begins nor ends with a blank is trimmed as it stands. -/
theorem trim_cons_concat {c d : Char} (hc : isBlank c = false) (hd : isBlank d = false)
    (s : List Char) : trim (c :: (s ++ [d])) = c :: (s ++ [d]) := by
  rw [trim_cons hc, trimEnd_eq_rdropWhile, List.rdropWhile_concat_neg _ _ _ (by simp [hd])]

theorem not_blank_of_trim_eq_cons {s rest : List Char} {c : Char} (h : trim s = c :: rest) :
    isBlank c = false := by
  cases hstart : trimStart s with
  | nil => simp [trim, hstart, trimEnd] at h
  | cons d tail =>
      have hd : isBlank d = false := by
        have hhead := List.head?_dropWhile_not isBlank s
        rw [show s.dropWhile isBlank = d :: tail from hstart] at hhead
        simpa using hhead
      rw [trim, hstart, trimEnd_cons hd] at h
      rwa [← (List.cons.inj h).1]

theorem trimEnd_trimEnd (s : List Char) : trimEnd (trimEnd s) = trimEnd s :=
  List.rdropWhile_idempotent isBlank s

theorem trim_trim (s : List Char) : trim (trim s) = trim s := by
  cases h : trim s with
  | nil => rfl
  | cons c rest =>
      rw [trim, trimStart, List.dropWhile_cons_of_neg (by simp [not_blank_of_trim_eq_cons h]), ← h,
        trim, trimEnd_trimEnd]

theorem trim_trimStart (s : List Char) : trim (trimStart s) = trim s := by
  rw [trim, trim, trimStart, trimStart, List.dropWhile_idempotent]

theorem trim_trimEnd (s : List Char) : trim (trimEnd s) = trim s := by
  induction s with
  | nil => rfl
  | cons c rest ih =>
      cases hc : isBlank c with
      | false => rw [trimEnd_cons hc, trim_cons hc, trim_cons hc, trimEnd_trimEnd]
      | true =>
          rw [trim_cons_of_blank hc, ← ih, trimEnd, List.reverse_cons, List.dropWhile_append]
          cases hrest : (rest.reverse.dropWhile isBlank).isEmpty with
          | true => simp [trimEnd, hc, List.isEmpty_iff.mp hrest]
          | false => simpa [trimEnd] using trim_cons_of_blank hc _

/-! ### Lines -/

theorem linesFrom_append {xs : List Char} (h : '\n' ∉ xs) (rest before : List Char) :
    linesFrom (xs ++ rest) before = linesFrom rest (xs.reverse ++ before) := by
  induction xs generalizing before with
  | nil => rfl
  | cons x xs ih =>
      have hx : x ≠ '\n' := fun heq => h (heq ▸ List.mem_cons_self)
      have hxs : '\n' ∉ xs := fun hmem => h (List.mem_cons_of_mem _ hmem)
      rw [List.cons_append, linesFrom, ih hxs, List.reverse_cons, List.append_assoc,
        List.singleton_append]
      exact hx

theorem endLine_reverse {l : List Char} (h : l.getLast? ≠ some '\r') : endLine l.reverse = l := by
  rw [endLine.eq_def]
  split
  · rename_i line heq
    rw [List.getLast?_eq_head?_reverse, heq] at h
    exact absurd rfl h
  · exact List.reverse_reverse l

/-- Texts that are read as one line when a line feed ends them. -/
def IsLine (l : List Char) : Prop :=
  '\n' ∉ l ∧ l.getLast? ≠ some '\r'

instance (l : List Char) : Decidable (IsLine l) :=
  inferInstanceAs (Decidable ('\n' ∉ l ∧ l.getLast? ≠ some '\r'))

theorem IsLine.append {a b : List Char} (ha : '\n' ∉ a) (hb : IsLine b) (hne : b ≠ []) :
    IsLine (a ++ b) := by
  obtain ⟨hfeed, hreturn⟩ := hb
  refine ⟨by simp [ha, hfeed], ?_⟩
  rw [List.getLast?_append_of_ne_nil _ hne]
  exact hreturn

/-- Lines are read as they were written. -/
theorem lines_flatMap {ls : List (List Char)} (h : ∀ l ∈ ls, IsLine l) :
    lines (ls.flatMap (· ++ ['\n'])) = ls := by
  rw [lines]
  induction ls with
  | nil => rfl
  | cons l rest ih =>
      obtain ⟨hl, hreturn⟩ := h l List.mem_cons_self
      rw [List.flatMap_cons, List.append_assoc, linesFrom_append hl, List.append_nil]
      rw [List.singleton_append, linesFrom, endLine_reverse hreturn, ih]
      exact fun l' hl' => h l' (List.mem_cons_of_mem _ hl')

theorem mem_endLine {c : Char} {before : List Char} (h : c ∈ endLine before) : c ∈ before := by
  rw [endLine.eq_def] at h
  split at h
  · exact List.mem_cons_of_mem _ (List.mem_reverse.mp h)
  · exact List.mem_reverse.mp h

theorem endLine_isPrefix (before : List Char) : endLine before <+: before.reverse := by
  rw [endLine.eq_def]
  split
  · rw [List.reverse_cons]
    exact List.prefix_append _ _
  · exact List.prefix_refl _

theorem of_mem_linesFrom {s before l : List Char} (hbefore : '\n' ∉ before)
    (h : l ∈ linesFrom s before) : l <:+: before.reverse ++ s ∧ '\n' ∉ l := by
  induction s generalizing before with
  | nil =>
      cases before with
      | nil => simp [linesFrom] at h
      | cons c before =>
          rw [linesFrom, List.mem_singleton] at h
          · subst h
            rw [List.append_nil]
            exact ⟨List.infix_refl _, fun hmem => hbefore (List.mem_reverse.mp hmem)⟩
          · simp
  | cons c rest ih =>
      by_cases hc : c = '\n'
      · subst hc
        rw [linesFrom, List.mem_cons] at h
        rcases h with rfl | h
        · exact ⟨(endLine_isPrefix before).isInfix.trans (List.prefix_append _ _).isInfix,
            fun hmem => hbefore (mem_endLine hmem)⟩
        · obtain ⟨hpart, hnot⟩ := ih (by simp) h
          refine ⟨hpart.trans ?_, hnot⟩
          exact ((List.suffix_cons _ _).trans (List.suffix_append _ _)).isInfix
      · rw [linesFrom] at h
        · obtain ⟨hpart, hnot⟩ := ih (by simp [Ne.symm hc, hbefore]) h
          rw [List.reverse_cons, List.append_assoc] at hpart
          exact ⟨hpart, hnot⟩
        · exact hc

/-- A line is a part of the text without a line feed. -/
theorem of_mem_lines {s l : List Char} (h : l ∈ lines s) : l <:+: s ∧ '\n' ∉ l :=
  of_mem_linesFrom (by simp) h

/-! ### Cutting at a character -/

theorem splitFirst?_append {mark : Char} {a : List Char} (h : mark ∉ a) (b : List Char) :
    splitFirst? mark (a ++ mark :: b) = some (a, b) := by
  have ha : ∀ c ∈ a, (c != mark) = true := by
    intro c hc
    rw [bne_iff_ne]
    rintro rfl
    exact h hc
  rw [splitFirst?, List.dropWhile_append_of_pos ha, List.takeWhile_append_of_pos ha]
  simp

theorem splitFirst?_of_not_mem {mark : Char} {s : List Char} (h : mark ∉ s) :
    splitFirst? mark s = none := by
  have hs : s.dropWhile (· != mark) = [] := by
    rw [List.dropWhile_eq_nil_iff]
    intro c hc
    rw [bne_iff_ne]
    rintro rfl
    exact h hc
  rw [splitFirst?, hs]

theorem splitFirst?_eq_some_iff {mark : Char} {s a b : List Char} :
    splitFirst? mark s = some (a, b) ↔ s = a ++ mark :: b ∧ mark ∉ a := by
  constructor
  · intro h
    by_cases hmem : mark ∈ s
    · obtain ⟨a', b', rfl, ha'⟩ := List.eq_append_cons_of_mem hmem
      rw [splitFirst?_append ha', Option.some.injEq, Prod.mk.injEq] at h
      obtain ⟨rfl, rfl⟩ := h
      exact ⟨rfl, ha'⟩
    · rw [splitFirst?_of_not_mem hmem] at h
      exact absurd h (by simp)
  · rintro ⟨rfl, ha⟩
    exact splitFirst?_append ha b

theorem splitFirst?_isSome_iff {mark : Char} {s : List Char} :
    (splitFirst? mark s).isSome ↔ mark ∈ s := by
  constructor
  · intro h
    obtain ⟨⟨a, b⟩, hab⟩ := Option.isSome_iff_exists.mp h
    rw [(splitFirst?_eq_some_iff.mp hab).1]
    simp
  · intro h
    obtain ⟨a, b, rfl, ha⟩ := List.eq_append_cons_of_mem h
    rw [splitFirst?_append ha]
    rfl

theorem of_mem_splitFrom {mark : Char} {s before part : List Char} (hbefore : mark ∉ before)
    (h : part ∈ splitFrom mark s before) : part <:+: before.reverse ++ s ∧ mark ∉ part := by
  induction s generalizing before with
  | nil =>
      rw [splitFrom, List.mem_singleton] at h
      subst h
      rw [List.append_nil]
      exact ⟨List.infix_refl _, fun hmem => hbefore (List.mem_reverse.mp hmem)⟩
  | cons c rest ih =>
      rw [splitFrom] at h
      split_ifs at h with hc
      · rcases List.mem_cons.mp h with rfl | h
        · exact ⟨(List.prefix_append _ _).isInfix, fun hmem => hbefore (List.mem_reverse.mp hmem)⟩
        · obtain ⟨hpart, hnot⟩ := ih (by simp) h
          refine ⟨hpart.trans ?_, hnot⟩
          exact ((List.suffix_cons _ _).trans (List.suffix_append _ _)).isInfix
      · obtain ⟨hpart, hnot⟩ := ih (by simp [Ne.symm hc, hbefore]) h
        rw [List.reverse_cons, List.append_assoc] at hpart
        exact ⟨hpart, hnot⟩

/-- A part between marks is a part of the text without a mark. -/
theorem of_mem_splitAll {mark : Char} {s part : List Char} (h : part ∈ splitAll mark s) :
    part <:+: s ∧ mark ∉ part :=
  of_mem_splitFrom (by simp) h

theorem exists_mem_splitFrom {mark c : Char} {s before : List Char} (hc : c ≠ mark)
    (h : c ∈ before ∨ c ∈ s) : ∃ part ∈ splitFrom mark s before, c ∈ part := by
  induction s generalizing before with
  | nil =>
      rw [splitFrom]
      simpa using h
  | cons d rest ih =>
      rw [splitFrom]
      split_ifs with hd
      · rcases h with h | h
        · exact ⟨before.reverse, List.mem_cons_self, List.mem_reverse.mpr h⟩
        · have hrest : c ∈ rest := (List.mem_cons.mp h).resolve_left (hd ▸ hc)
          obtain ⟨part, hpart, hmem⟩ := @ih [] (Or.inr hrest)
          exact ⟨part, List.mem_cons_of_mem _ hpart, hmem⟩
      · apply ih
        rcases h with h | h
        · exact Or.inl (List.mem_cons_of_mem _ h)
        · rcases List.mem_cons.mp h with rfl | h
          · exact Or.inl List.mem_cons_self
          · exact Or.inr h

/-- Every character but the marks is found in one of the parts. -/
theorem exists_mem_splitAll {mark c : Char} {s : List Char} (hc : c ≠ mark) (h : c ∈ s) :
    ∃ part ∈ splitAll mark s, c ∈ part :=
  exists_mem_splitFrom hc (Or.inr h)

/-! ### Cutting at a word -/

/-- A word lies on one side of a character that it does not hold. -/
theorem isInfix_of_append_cons {c : Char} {word a b : List Char} (hc : c ∉ word)
    (h : word <:+: a ++ c :: b) : word <:+: a ∨ word <:+: b := by
  induction a with
  | nil =>
      rw [List.nil_append, List.infix_cons_iff] at h
      rcases h with h | h
      · cases word with
        | nil => exact Or.inl (List.nil_infix)
        | cons d rest =>
            exact absurd (List.cons_prefix_cons.mp h).1 fun heq => hc (heq ▸ List.mem_cons_self)
      · exact Or.inr h
  | cons x a ih =>
      rw [List.cons_append, List.infix_cons_iff] at h
      rcases h with h | h
      · left
        by_cases hlength : word.length ≤ (x :: a).length
        · rw [← List.cons_append] at h
          exact (List.prefix_of_prefix_length_le h (List.prefix_append _ _) hlength).isInfix
        · -- The word reaches beyond the character, so it holds it.
          refine absurd ?_ hc
          have hreach : x :: a ++ [c] <+: word := by
            refine List.prefix_of_prefix_length_le ⟨b, ?_⟩ h ?_
            · simp
            · rw [List.length_append, List.length_singleton]
              omega
          exact hreach.subset (by simp)
      · rcases ih h with h | h
        · exact Or.inl (h.trans (List.suffix_cons x a).isInfix)
        · exact Or.inr h

theorem append_dropLast_isPrefix (x word b : List Char) :
    x ++ word.dropLast <+: x ++ word ++ b := by
  rw [List.append_assoc, List.prefix_append_right_inj]
  have hword : word.dropLast <+: word := List.dropLast_prefix word
  exact hword.trans (List.prefix_append _ _)

theorem prefix_append_dropLast {word x b : List Char} (hx : x ≠ []) (h : word <+: x ++ word ++ b) :
    word <+: x ++ word.dropLast := by
  refine List.prefix_of_prefix_length_le h (append_dropLast_isPrefix x word b) ?_
  have hlength : 0 < x.length := List.length_pos_of_ne_nil hx
  rw [List.length_append, List.length_dropLast]
  omega

theorem cutFrom_eq_some_iff {word s before p b : List Char} (hword : word ≠ []) :
    cutFrom word s before = some (p, b) ↔
      ∃ a, p = before.reverse ++ a ∧ s = a ++ word ++ b ∧ ¬ word <:+: a ++ word.dropLast := by
  have hshort : ¬ word <:+: word.dropLast := by
    intro h
    have hle := h.length_le
    have hpos : 0 < word.length := List.length_pos_of_ne_nil hword
    rw [List.length_dropLast] at hle
    omega
  induction s generalizing before with
  | nil =>
      rw [cutFrom]
      simp [hword]
  | cons c rest ih =>
      rw [cutFrom]
      split_ifs with hbegins
      · obtain ⟨tail, htail⟩ := List.isPrefixOf_iff_prefix.mp hbegins
        constructor
        · intro h
          rw [Option.some.injEq, Prod.mk.injEq] at h
          obtain ⟨rfl, rfl⟩ := h
          refine ⟨[], by simp, ?_, by simpa using hshort⟩
          rw [← htail]
          simp
        · rintro ⟨a, rfl, heq, hnot⟩
          have ha : a = [] := by
            by_contra hne
            refine hnot (prefix_append_dropLast (b := b) hne ?_).isInfix
            rw [← heq, ← htail]
            exact List.prefix_append _ _
          subst ha
          rw [heq]
          simp
      · refine (@ih (c :: before)).trans ?_
        constructor
        · rintro ⟨a, rfl, rfl, hnot⟩
          refine ⟨c :: a, by simp, by simp, ?_⟩
          intro hpart
          rw [List.cons_append, List.infix_cons_iff] at hpart
          rcases hpart with h | h
          · refine hbegins (List.isPrefixOf_iff_prefix.mpr (h.trans ?_))
            exact List.cons_prefix_cons.mpr ⟨rfl, append_dropLast_isPrefix a word b⟩
          · exact hnot h
        · rintro ⟨a, rfl, heq, hnot⟩
          cases a with
          | nil =>
              refine absurd (List.isPrefixOf_iff_prefix.mpr ?_) hbegins
              rw [heq]
              simp
          | cons d a =>
              obtain ⟨rfl, rfl⟩ := List.cons.inj heq
              refine ⟨a, by simp, rfl, ?_⟩
              intro hpart
              refine hnot (hpart.trans ?_)
              rw [List.cons_append]
              exact (List.suffix_cons _ _).isInfix

/-- The cut is at the leftmost occurrence: the word occurs nowhere that begins before it. -/
theorem cutAt?_eq_some_iff {word s a b : List Char} (hword : word ≠ []) :
    cutAt? word s = some (a, b) ↔ s = a ++ word ++ b ∧ ¬ word <:+: a ++ word.dropLast := by
  rw [cutAt?, cutFrom_eq_some_iff hword]
  simp

theorem cutFrom_isSome_iff {word s before : List Char} :
    (cutFrom word s before).isSome ↔ word <:+: s := by
  induction s generalizing before with
  | nil =>
      rw [cutFrom, List.infix_nil]
      cases word <;> simp
  | cons c rest ih =>
      rw [cutFrom, List.infix_cons_iff]
      split_ifs with hbegins
      · simp [List.isPrefixOf_iff_prefix.mp hbegins]
      · rw [List.isPrefixOf_iff_prefix] at hbegins
        rw [ih, or_iff_right hbegins]

/-- A text is cut at a word that occurs in it. -/
theorem cutAt?_isSome_iff {word s : List Char} : (cutAt? word s).isSome ↔ word <:+: s :=
  cutFrom_isSome_iff

end RuleGate.Text
