import RuleGate.Proofs.DocumentParts
import RuleGate.Proofs.MetadataBlocks
import RuleGate.Rule.Reader

/-! Which documents hold a rule. The reader refuses a document only where it has found no metadata,
so a document is accepted exactly if it has a metadata block and the block has a line with a key:
every such line is stored, whatever list is open before it, and no other line ever stores a key. -/

namespace RuleGate

open Text Metadata

/-! ### Lines with a key -/

/-- Lines that store a key: those with a colon whose first character is neither blank nor a dash nor
a hash. -/
def IsKeyed (line : List Char) : Prop :=
  ':' ∈ line ∧ ∃ c, line.head? = some c ∧ isBlank c = false ∧ c ≠ '-' ∧ c ≠ '#'

theorem isKeyed_iff {line : List Char} :
    IsKeyed line ↔ isContent line = true ∧ isKeyLine line = true := by
  cases line with
  | nil => simp [IsKeyed, isKeyLine]
  | cons c rest =>
      cases hblank : isBlank c with
      | true => simp [IsKeyed, isKeyLine, hblank]
      | false =>
          rw [isContent, trim_cons hblank]
          simp [IsKeyed, isKeyLine, hblank]
          tauto

theorem Text.sections_eq_nil_iff {α : Type} {marked : α → Bool} {l : List α} :
    (sections marked l).2 = [] ↔ ∀ x ∈ l, marked x = false := by
  constructor
  · intro h x hx
    rw [← append_flatMap_sections marked l, h, List.flatMap_nil, List.append_nil] at hx
    exact not_marked_of_mem_lead x hx
  · intro h
    have hlead := sections_of_not_marked h []
    rw [List.append_nil] at hlead
    rw [hlead]
    rfl

theorem Dictionary.isEmpty_ofList_iff {α : Type} {pairs : List (String × α)} :
    (ofList pairs).isEmpty = true ↔ pairs = [] := by
  cases pairs with
  | nil => simp [ofList, isEmpty, empty]
  | cons pair rest =>
      obtain ⟨value, hfound⟩ := Option.isSome_iff_exists.mp (isSome_find?_ofList List.mem_cons_self)
      rw [isEmpty_of_find?_eq_some hfound]
      simp

/-- A metadata block is empty exactly if none of its lines has a key. -/
theorem Metadata.isEmpty_ofText_iff {block : List Char} :
    (Metadata.ofText block).isEmpty = true ↔ ∀ line ∈ lines block, ¬ IsKeyed line := by
  rw [Metadata.ofText, Scan.close_foldl_readLine, ofBlocks, Dictionary.isEmpty_ofList_iff,
    List.map_eq_nil_iff, sections_eq_nil_iff]
  simp only [List.mem_filter, isKeyed_iff, not_and, Bool.not_eq_true, and_imp]

/-! ### Delimiters -/

namespace Document

/-- A text that opens with the delimiter is cut at the leftmost further one. -/
structure IsCut (content block body : List Char) : Prop where
  whole : content = delimiter ++ block ++ delimiter ++ body
  leftmost : ∀ a b, content = delimiter ++ a ++ delimiter ++ b → block.length ≤ a.length

theorem IsCut.of_split? {content block body : List Char} (h : split? content = some (block, body)) :
    IsCut content block body := by
  obtain ⟨rfl, hblock⟩ := split?_eq_some_iff.mp h
  refine ⟨by simp, ?_⟩
  intro a b heq
  by_contra hshort
  -- A delimiter further left would lie in the block, or reach at most two characters beyond it.
  have hprefix : a ++ delimiter <+: block ++ delimiter ++ body := by
    have hrest : delimiter ++ (block ++ delimiter ++ body) =
        delimiter ++ (a ++ delimiter ++ b) := by
      rw [heq]
      simp only [List.append_assoc]
    exact ⟨b, (List.append_cancel_left hrest).symm⟩
  have hinside : a ++ delimiter <+: block ++ delimiter.dropLast := by
    refine List.prefix_of_prefix_length_le hprefix
      (append_dropLast_isPrefix block delimiter body) ?_
    simp only [List.length_append, List.length_dropLast]
    omega
  exact hblock ((List.suffix_append a delimiter).isInfix.trans hinside.isInfix)

theorem split?_isSome_iff {content : List Char} :
    (split? content).isSome ↔ ∃ a b, content = delimiter ++ a ++ delimiter ++ b := by
  rw [split?]
  constructor
  · intro h
    split_ifs at h with hopens
    · obtain ⟨rest, rfl⟩ := List.isPrefixOf_iff_prefix.mp hopens
      rw [List.drop_left, cutAt?_isSome_iff] at h
      obtain ⟨a, b, rfl⟩ := h
      exact ⟨a, b, by simp⟩
    · simp at h
  · rintro ⟨a, b, rfl⟩
    have hopens : delimiter.isPrefixOf (delimiter ++ (a ++ (delimiter ++ b))) = true :=
      List.isPrefixOf_iff_prefix.mpr (List.prefix_append _ _)
    simp only [List.append_assoc]
    rw [if_pos hopens, List.drop_left, cutAt?_isSome_iff, ← List.append_assoc]
    exact List.infix_append a delimiter b

/-- There is one way at most to cut a text. -/
theorem IsCut.split?_eq {content block body : List Char} (h : IsCut content block body) :
    split? content = some (block, body) := by
  obtain ⟨⟨block', body'⟩, hsplit⟩ :=
    Option.isSome_iff_exists.mp (split?_isSome_iff.mpr ⟨block, body, h.whole⟩)
  have h' := IsCut.of_split? hsplit
  have hlength : block'.length = block.length :=
    Nat.le_antisymm (h'.leftmost block body h.whole) (h.leftmost block' body' h'.whole)
  have hwhole := h'.whole.symm.trans h.whole
  simp only [List.append_assoc, List.append_cancel_left_eq] at hwhole
  obtain ⟨rfl, hrest⟩ := List.append_inj hwhole hlength
  rw [hsplit, List.append_cancel_left hrest]

/-- A text without both delimiters has no metadata and is its own body. -/
theorem ofText_of_undelimited {content : String}
    (h : ∀ a b, content.toList ≠ delimiter ++ a ++ delimiter ++ b) :
    ofText content = ⟨Dictionary.empty, content⟩ := by
  have hnone : split? content.toList = none := by
    rw [← Option.not_isSome_iff_eq_none, split?_isSome_iff]
    rintro ⟨a, b, heq⟩
    exact h a b heq
  rw [ofText, hnone]

theorem IsCut.ofText_eq {content : String} {block body : List Char}
    (h : IsCut content.toList block body) :
    ofText content = ⟨Metadata.ofText block, String.ofList (trim body)⟩ := by
  rw [ofText, h.split?_eq]

end Document

/-! ### Rules -/

namespace Rule

/-- Metadata is refused if it is empty, and for no other reason. -/
theorem ofMetadata_isOk_iff {m : Metadata} {body : String} {source : Option String} :
    (∃ r, ofMetadata m body source = .ok r) ↔ m.isEmpty = false := by
  rw [ofMetadata]
  cases m.isEmpty <;> simp

theorem message_of_ofMetadata {m : Metadata} {body : String} {source : Option String} {r : Rule}
    (h : ofMetadata m body source = .ok r) : r.message = String.ofList (trim body.toList) := by
  rw [ofMetadata] at h
  split_ifs at h
  rw [← Except.ok.inj h]

theorem ofMetadata_of_isEmpty {m : Metadata} {body : String} {source : Option String}
    (h : m.isEmpty = true) :
    ofMetadata m body source =
      .error (.malformedRule (source.getD inlinePath) "missing frontmatter") := by
  rw [ofMetadata, if_pos h]

theorem ofText_isOk_iff {content : String} {source : Option String} :
    (∃ r, ofText content source = .ok r) ↔ (Document.ofText content).metadata.isEmpty = false :=
  ofMetadata_isOk_iff

theorem isEmpty_metadata_iff {content : String} :
    (Document.ofText content).metadata.isEmpty = false ↔
      ∃ block body, Document.IsCut content.toList block body ∧
        ∃ line ∈ lines block, IsKeyed line := by
  by_cases hcut : ∃ block body, Document.IsCut content.toList block body
  · obtain ⟨block, body, hcut⟩ := hcut
    rw [hcut.ofText_eq, ← Bool.not_eq_true, isEmpty_ofText_iff]
    push Not
    constructor
    · intro h
      exact ⟨block, body, hcut, h⟩
    · rintro ⟨block', body', hcut', h⟩
      have hsame := hcut'.split?_eq.symm.trans hcut.split?_eq
      rw [Option.some.injEq, Prod.mk.injEq] at hsame
      rwa [← hsame.1]
  · have hempty : Document.ofText content = ⟨Dictionary.empty, content⟩ := by
      refine Document.ofText_of_undelimited fun a b heq => hcut ?_
      obtain ⟨⟨block, body⟩, hsplit⟩ :=
        Option.isSome_iff_exists.mp (Document.split?_isSome_iff.mpr ⟨a, b, heq⟩)
      exact ⟨block, body, .of_split? hsplit⟩
    rw [hempty]
    constructor
    · intro h
      exact absurd h (by simp [Dictionary.isEmpty, Dictionary.empty])
    · rintro ⟨block, body, h, _⟩
      exact absurd ⟨block, body, h⟩ hcut

/-- A document holds a rule exactly if it opens with the delimiter, has another one, and has a line
with a key up to the leftmost other one. The message of the rule is then what stands behind that
delimiter, without the blanks at its ends. Every other document is refused, and one without both
delimiters is read as a body without metadata, as it stands. -/
theorem ofText_isOk_iff_isKeyed (content : String) :
    ((∃ r, ofText content none = .ok r) ↔
      ∃ block body, Document.IsCut content.toList block body ∧ ∃ line ∈ lines block, IsKeyed line) ∧
    (∀ r block body, ofText content none = .ok r → Document.IsCut content.toList block body →
      r.message.toList = trim body) ∧
    ((∀ r, ofText content none ≠ .ok r) →
      ofText content none = .error (.malformedRule "<inline>" "missing frontmatter")) ∧
    ((∀ block body, content.toList ≠ "---".toList ++ block ++ "---".toList ++ body) →
      Document.ofText content = ⟨Dictionary.empty, content⟩) := by
  refine ⟨ofText_isOk_iff.trans isEmpty_metadata_iff, ?_, ?_, Document.ofText_of_undelimited⟩
  · intro r block body hr hcut
    rw [ofText, hcut.ofText_eq] at hr
    rw [message_of_ofMetadata hr, String.toList_ofList, String.toList_ofList, trim_trim]
  · intro h
    refine ofMetadata_of_isEmpty ?_
    rw [← Bool.not_eq_false]
    intro hmetadata
    obtain ⟨r, hr⟩ := ofText_isOk_iff.mpr hmetadata
    exact h r hr

/-- A document whose only key is empty and opens a list, and in which four dashes close the
block. -/
def bareKeyDocument : String := "---:\n- a\n---- Keep --- this.\n"

/-- A document in which every colon stands behind a blank, a dash or a hash. -/
def keylessDocument : String := "---\n a: b\n- c: d\n# e: f\n---\n"

/-- A document that nothing closes. -/
def openDocument : String := "---\na: b\n--"

theorem ofText_bareKeyDocument :
    (∃ r, ofText bareKeyDocument none = .ok r ∧ r.message.toList = "- Keep --- this.".toList) ∧
      ofText keylessDocument none = .error (.malformedRule "<inline>" "missing frontmatter") ∧
      Document.ofText openDocument = ⟨Dictionary.empty, openDocument⟩ := by
  have hcut : Document.IsCut bareKeyDocument.toList ":\n- a\n".toList "- Keep --- this.\n".toList :=
    Document.IsCut.of_split? (by decide)
  obtain ⟨haccepted, hmessage, _, _⟩ := ofText_isOk_iff_isKeyed bareKeyDocument
  obtain ⟨r, hr⟩ := haccepted.mpr ⟨_, _, hcut, [':'], by decide, by decide, ':', rfl, by decide⟩
  refine ⟨⟨r, hr, hmessage r _ _ hr hcut⟩, (ofText_isOk_iff_isKeyed keylessDocument).2.2.1 ?_,
    (ofText_isOk_iff_isKeyed openDocument).2.2.2 ?_⟩
  · intro r hr
    have hrefused : (ofText keylessDocument none).toOption = none := by decide +kernel
    rw [hr] at hrefused
    exact absurd hrefused (by simp [Except.toOption])
  · intro block body heq
    exact absurd (Document.split?_isSome_iff.mpr ⟨block, body, heq⟩) (by decide)

end Rule

end RuleGate
