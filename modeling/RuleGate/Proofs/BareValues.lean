import RuleGate.Proofs.HeaderLines
import RuleGate.Proofs.MetadataRoundTrip

/-! What a value is stored as. A quote character is taken off either end, whether or not the same
one stands at the other end, so a value is stored as it stands exactly if it neither begins nor ends
with one. -/

namespace RuleGate.Metadata

open Text

/-! ### The quotes at the ends -/

/-- The quote character at an end of a text, if one stands there. -/
def quoteAt (c? : Option Char) : List Char :=
  c?.toList.filter isQuote

/-- What is left of a text without the quote character that it begins with and without the one that
the rest ends with. -/
def IsBareOf (bare text : List Char) : Prop :=
  ∃ rest, text = quoteAt text.head? ++ rest ∧ rest = bare ++ quoteAt rest.getLast?

theorem dropOpeningQuote_eq_iff {s rest : List Char} :
    dropOpeningQuote s = rest ↔ s = quoteAt s.head? ++ rest := by
  cases s with
  | nil => simp [dropOpeningQuote, quoteAt, eq_comm]
  | cons c tail =>
      by_cases hc : isQuote c = true
      · simp [dropOpeningQuote, quoteAt, hc]
      · simp [dropOpeningQuote, quoteAt, hc]

theorem reverse_quoteAt (c? : Option Char) : (quoteAt c?).reverse = quoteAt c? := by
  cases c? with
  | none => rfl
  | some c => by_cases hc : isQuote c = true <;> simp [quoteAt, hc]

theorem isBareOf_iff {bare text : List Char} : IsBareOf bare text ↔ unquote text = bare := by
  -- The quote at the end is the one that the reversed text begins with.
  have hend : ∀ rest, rest = bare ++ quoteAt rest.getLast? ↔
      (dropOpeningQuote rest.reverse).reverse = bare := by
    intro rest
    have hreverse :
        quoteAt rest.getLast? ++ bare.reverse = (bare ++ quoteAt rest.getLast?).reverse := by
      rw [List.reverse_append, reverse_quoteAt]
    rw [List.reverse_eq_iff, dropOpeningQuote_eq_iff, List.head?_reverse, hreverse,
      List.reverse_inj]
  rw [unquote, IsBareOf]
  simp only [hend, ← dropOpeningQuote_eq_iff, exists_eq_left']

/-- Nothing is taken off a text without a quote character at its ends. -/
theorem unquote_eq_self_iff {s : List Char} :
    unquote s = s ↔ quoteAt s.head? = [] ∧ quoteAt s.getLast? = [] := by
  rw [← isBareOf_iff]
  constructor
  · rintro ⟨rest, hs, hrest⟩
    have hlength := congrArg List.length hs
    have hlength' := congrArg List.length hrest
    rw [List.length_append] at hlength hlength'
    have hopening : quoteAt s.head? = [] := List.length_eq_zero_iff.mp (by omega)
    have hclosing : quoteAt rest.getLast? = [] := List.length_eq_zero_iff.mp (by omega)
    rw [hopening, List.nil_append] at hs
    exact ⟨hopening, hs ▸ hclosing⟩
  · rintro ⟨hopening, hclosing⟩
    exact ⟨s, by rw [hopening, List.nil_append], by rw [hclosing, List.append_nil]⟩

/-! ### Lines that are read -/

theorem ofText_blocks {blocks : List (List Char × List (List Char))}
    (hkinds : ∀ b ∈ blocks, (isContent b.1 = true ∧ isKeyLine b.1 = true) ∧ AreFurther b.2)
    (hlines : ∀ line ∈ blocks.flatMap fun b => b.1 :: b.2, '\n' ∉ line) :
    ofText (['\n'].intercalate (blocks.flatMap fun b => b.1 :: b.2)) =
      Dictionary.ofList (blocks.map entryOf) :=
  (ofText_intercalate hlines).trans (ofBlocks_flatMap hkinds)

theorem kind_valueLine {key : String} (hkey : IsKey key) (value : List Char) :
    (isContent (withValue key.toList value) = true ∧
      isKeyLine (withValue key.toList value) = true) ∧
      AreFurther [] :=
  ⟨kind_keyLine hkey _, List.forall_mem_nil _⟩

theorem ofText_valueLine {key : String} (hkey : IsKey key) (hkeyLine : '\n' ∉ key.toList)
    {value : List Char} (htrim : trim value = value) (hne : value ≠ [])
    (hvalueLine : '\n' ∉ value) :
    ofText (withValue key.toList value) = Dictionary.ofList [(key, Value.ofText value)] := by
  have hread := @ofText_blocks [(withValue key.toList value, [])] ?_ ?_
  · rwa [List.flatMap_singleton, List.intercalate_singleton, List.map_singleton,
      entryOf_withValue hkey htrim hne] at hread
  · rw [List.forall_mem_singleton]
    exact kind_valueLine hkey value
  · simp [withValue, hkeyLine, hvalueLine]

theorem kind_furtherPair {key : String} (hkey : IsKey key) (value : List Char) :
    isContent (furtherLine (withValue key.toList value)) = true ∧
      isKeyLine (furtherLine (withValue key.toList value)) = false ∧
      isDashLine (furtherLine (withValue key.toList value)) = false := by
  obtain ⟨c, hhead, hblank, hdash, hhash⟩ := head?_keyLine hkey (' ' :: value)
  exact kind_furtherLine hhead hblank hdash hhash

section PairLines

variable {key : String} (hkey : IsKey key) {further : String} (hfurther : IsKey further)
  (first value : List Char)

include hkey hfurther

/-- A line with a key, a line with a dash and a line with a further pair are a block. -/
theorem kind_pairLines :
    (isContent (key.toList ++ [':']) = true ∧ isKeyLine (key.toList ++ [':']) = true) ∧
      AreFurther [dashLine first, furtherLine (withValue further.toList value)] := by
  refine ⟨kind_keyLine hkey [], (kind_group first ?_).1⟩
  intro line hline
  rw [List.mem_singleton.mp hline]
  exact kind_furtherPair hfurther value

/-- The pair behind the dash and the further pair make one map. -/
theorem entryOf_pairLines (hcomma : ',' ∉ first) {pair : String × String}
    (hfirst : pair? first = some pair) :
    entryOf (key.toList ++ [':'], [dashLine first, furtherLine (withValue further.toList value)]) =
      (key, .list [.map (Dictionary.ofList
        [pair, (String.ofList (unquote further.toList),
          String.ofList (unquote (trim value)))])]) := by
  have hgroups : ∀ g ∈ [(dashLine first, [furtherLine (withValue further.toList value)])],
      isDashLine g.1 = true ∧ ∀ line ∈ g.2, isDashLine line = false := by
    intro g hg
    rw [List.mem_singleton.mp hg]
    exact ⟨(kind_dashLine first).2.2, by simpa using (kind_furtherPair hfurther value).2.2⟩
  have hread := entryOf_list hkey hgroups
  rwa [List.map_singleton, itemOf_map hcomma hfirst, List.filterMap_cons, furtherPair?_furtherLine,
    pair?_withValue hfurther.noColon, hfurther.trimmed] at hread

end PairLines

/-! ### Values -/

/-- A value is stored without the quotes at its ends and otherwise as it stands. A truth value is
one only under a key of the block, not under a key of a map. -/
theorem ofText_bareValue (value : String) (htrim : trim value.toList = value.toList)
    (hne : value ≠ "") (hline : '\n' ∉ value.toList) :
    ∃ bare : String, IsBareOf bare.toList value.toList ∧
      (bare = value ↔ quoteAt value.toList.head? = [] ∧ quoteAt value.toList.getLast? = []) ∧
      (∀ key : String, IsKey key → '\n' ∉ key.toList →
        ofText (key ++ ": " ++ value).toList = Dictionary.ofList [(key,
          if isWord "true" bare.toList then .bool true
          else if isWord "false" bare.toList then .bool false
          else .scalar bare)]) ∧
      ∀ key a x b : String, IsKey key → ':' ∉ a.toList → ',' ∉ (a ++ x).toList → IsKey b →
        unquote b.toList = b.toList → '\n' ∉ (key ++ a ++ x ++ b).toList →
        ofText ("\n".intercalate [key ++ ":", "  - " ++ a ++ ": " ++ x,
          "    " ++ b ++ ": " ++ value]).toList =
          Dictionary.ofList [(key, .list [.map (Dictionary.ofList
            [(String.ofList (unquote (trim a.toList)), String.ofList (unquote (trim x.toList))),
              (b, bare)])])] := by
  refine ⟨String.ofList (unquote value.toList), ?_, ?_, ?_, ?_⟩
  · rw [String.toList_ofList, isBareOf_iff]
  · rw [← unquote_eq_self_iff, ← String.toList_inj, String.toList_ofList]
  · intro key hkey hkeyLine
    have htext : (key ++ ": " ++ value).toList = withValue key.toList value.toList := by
      simp [withValue]
    have hnonempty : value.toList ≠ [] := by simpa using hne
    rw [htext, ofText_valueLine hkey hkeyLine htrim hnonempty hline, Value.ofText,
      String.toList_ofList]
  · intro key a x b hkey hcolon hcomma hb hbare hlines
    simp only [String.toList_append, List.mem_append, not_or] at hcomma hlines
    have hcomma : ',' ∉ withValue a.toList x.toList := by simp [withValue, hcomma]
    have hentry := entryOf_pairLines hkey hb _ value.toList hcomma (pair?_withValue hcolon x.toList)
    rw [hbare, htrim, String.ofList_toList] at hentry
    have hread := @ofText_blocks
      [(key.toList ++ [':'],
        [dashLine (withValue a.toList x.toList), furtherLine (withValue b.toList value.toList)])]
      ?_ ?_
    · rw [List.map_singleton, hentry] at hread
      rw [← hread, String.toList_intercalate]
      simp [withValue, dashLine, furtherLine]
    · rw [List.forall_mem_singleton]
      exact kind_pairLines hkey hb _ _
    · simp [withValue, dashLine, furtherLine, hlines, hline]

/-- A value that begins with one quote character and ends with the other. -/
def saying : String := "'say \"no\""

theorem ofText_bareValue_saying :
    (trim saying.toList = saying.toList ∧ saying ≠ "" ∧ '\n' ∉ saying.toList) ∧
      ofText ("k: " ++ saying).toList = Dictionary.ofList [("k", .scalar "say \"no")] ∧
      ofText ("k:\n  - a: x\n    b: " ++ saying).toList =
        Dictionary.ofList
          [("k", .list [.map (Dictionary.ofList [("a", "x"), ("b", "say \"no")])])] := by
  have hsaying : trim saying.toList = saying.toList ∧ saying ≠ "" ∧ '\n' ∉ saying.toList := by
    decide
  obtain ⟨bare, hbare, _, hvalue, hpair⟩ :=
    ofText_bareValue saying hsaying.1 hsaying.2.1 hsaying.2.2
  obtain rfl : bare = "say \"no" := by
    rw [← String.toList_inj, ← isBareOf_iff.mp hbare]
    decide
  exact ⟨hsaying, hvalue "k" (by decide) (by decide),
    hpair "k" "a" "x" "b" (by decide) (by decide) (by decide) (by decide) (by decide) (by decide)⟩

/-- A value in which the only quotes around something are not around it all. -/
def homeValue : String := "echo \"$HOME\""

/-- The last quote of a value is missing although it does not belong to the first character. -/
theorem ofText_homeValue :
    (trim homeValue.toList = homeValue.toList ∧ homeValue ≠ "" ∧ '\n' ∉ homeValue.toList) ∧
      (¬ ∃ quote text, isQuote quote = true ∧ homeValue.toList = quote :: (text ++ [quote])) ∧
      isWord "true" homeValue.toList = false ∧ isWord "false" homeValue.toList = false ∧
      ofText ("k: " ++ homeValue).toList ≠ Dictionary.ofList [("k", .scalar homeValue)] ∧
      ofText ("k:\n  - a: x\n    b: " ++ homeValue).toList ≠
        Dictionary.ofList
          [("k", .list [.map (Dictionary.ofList [("a", "x"), ("b", homeValue)])])] := by
  refine ⟨by decide, ?_, by decide, by decide, by decide +kernel, by decide +kernel⟩
  rintro ⟨quote, text, hquote, heq⟩
  have hfirst : 'e' = quote := (List.cons.inj heq).1
  rw [← hfirst] at hquote
  exact absurd hquote (by decide)

end RuleGate.Metadata
