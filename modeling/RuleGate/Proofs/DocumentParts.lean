import RuleGate.Document
import RuleGate.Proofs.TextCutting

/-! The metadata block that is cut out of a document. No delimiter stands in it, and a block of
lines in none of which a delimiter stands is cut out as it was put in. -/

namespace RuleGate.Document

open Text

/-- Texts in which no delimiter stands. -/
def Undelimited (text : List Char) : Prop :=
  ¬ delimiter <:+: text

instance (text : List Char) : Decidable (Undelimited text) :=
  inferInstanceAs (Decidable ¬ delimiter <:+: text)

theorem Undelimited.of_isInfix {a b : List Char} (hb : Undelimited b)
    (h : a <:+: b) : Undelimited a :=
  fun hdelimiter => hb (hdelimiter.trans h)

theorem Undelimited.append_cons {a b : List Char} {c : Char} (hc : c ∉ delimiter)
    (ha : Undelimited a) (hb : Undelimited b) : Undelimited (a ++ c :: b) := by
  intro h
  rcases isInfix_of_append_cons hc h with h | h
  · exact ha h
  · exact hb h

theorem Undelimited.cons {b : List Char} {c : Char} (hc : c ∉ delimiter) (hb : Undelimited b) :
    Undelimited (c :: b) :=
  Undelimited.append_cons hc (show Undelimited [] by decide) hb

/-- Lines end with a character that the delimiter does not hold. -/
theorem Undelimited.flatMap_lines {ls : List (List Char)} (hls : ∀ line ∈ ls, Undelimited line)
    {rest : List Char} (hrest : Undelimited rest) :
    Undelimited (ls.flatMap (· ++ ['\n']) ++ rest) := by
  induction ls with
  | nil => exact hrest
  | cons line ls ih =>
      rw [List.flatMap_cons, List.append_assoc, List.append_assoc, List.singleton_append]
      have htail := ih fun line' hline' => hls line' (List.mem_cons_of_mem _ hline')
      exact Undelimited.append_cons (by decide) (hls line List.mem_cons_self) htail

/-- The block ends at the first delimiter behind the one that opens it. -/
theorem split?_eq_some_iff {content block body : List Char} :
    split? content = some (block, body) ↔
      content = delimiter ++ (block ++ delimiter ++ body) ∧
      Undelimited (block ++ delimiter.dropLast) := by
  rw [split?]
  constructor
  · intro h
    split_ifs at h with hopens
    obtain ⟨rest, rfl⟩ := List.isPrefixOf_iff_prefix.mp hopens
    rw [List.drop_left, cutAt?_eq_some_iff (by decide)] at h
    exact ⟨by rw [h.1], h.2⟩
  · rintro ⟨rfl, hblock⟩
    have hopens : delimiter.isPrefixOf (delimiter ++ (block ++ delimiter ++ body)) = true :=
      List.isPrefixOf_iff_prefix.mpr (List.prefix_append _ _)
    rw [if_pos hopens, List.drop_left, cutAt?_eq_some_iff (by decide)]
    exact ⟨rfl, hblock⟩

theorem undelimited_of_split? {content block body : List Char}
    (h : split? content = some (block, body)) : Undelimited block :=
  (split?_eq_some_iff.mp h).2.of_isInfix (List.prefix_append _ _).isInfix

/-- The block of some lines, an empty one before them. -/
def blockOfLines (ls : List (List Char)) : List Char :=
  ([] :: ls).flatMap (· ++ ['\n'])

theorem lines_blockOfLines {ls : List (List Char)} (hls : ∀ line ∈ ls, IsLine line) :
    lines (blockOfLines ls) = [] :: ls := by
  refine lines_flatMap ?_
  intro line hline
  rcases List.mem_cons.mp hline with rfl | hline
  · decide
  · exact hls line hline

/-- A block of lines between delimiters is cut out as it was put in. -/
theorem split?_blockOfLines {ls : List (List Char)} (hls : ∀ line ∈ ls, Undelimited line)
    (body : List Char) :
    split? (delimiter ++ (blockOfLines ls ++ delimiter ++ body)) =
      some (blockOfLines ls, body) := by
  rw [split?_eq_some_iff]
  refine ⟨rfl, Undelimited.flatMap_lines ?_ (by decide)⟩
  intro line hline
  rcases List.mem_cons.mp hline with rfl | hline
  · decide
  · exact hls line hline

end RuleGate.Document
