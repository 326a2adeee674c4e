import RuleGate.Proofs.FieldValues

/-! Batches of edits to one file. A condition on their new text sees the texts of all edits with a
space between each and the next, so no edit hides a text that another one writes. An edit that
writes nothing leaves an empty text between two spaces, which only a pattern with a space can
tell. -/

namespace RuleGate

namespace Text

theorem isInfix_intercalate_of_mem {sep part : List Char} {parts : List (List Char)}
    (h : part ∈ parts) : part <:+: sep.intercalate parts := by
  induction parts with
  | nil => exact absurd h List.not_mem_nil
  | cons first rest ih =>
      cases rest with
      | nil =>
          rw [List.intercalate_singleton, List.mem_singleton.mp h]
      | cons second rest =>
          rw [List.intercalate_cons_cons]
          rcases List.mem_cons.mp h with rfl | h
          · exact ((List.prefix_append _ _).trans (List.prefix_append _ _)).isInfix
          · exact (ih h).trans (List.suffix_append _ _).isInfix

/-- A word that does not hold the separator lies inside one of the parts. -/
theorem exists_mem_of_isInfix_intercalate {sep : Char} {word : List Char} {parts : List (List Char)}
    (hword : word ≠ []) (hsep : sep ∉ word) (h : word <:+: [sep].intercalate parts) :
    ∃ part ∈ parts, word <:+: part := by
  induction parts with
  | nil => exact absurd (List.infix_nil.mp h) hword
  | cons first rest ih =>
      cases rest with
      | nil =>
          rw [List.intercalate_singleton] at h
          exact ⟨first, List.mem_cons_self, h⟩
      | cons second rest =>
          rw [List.intercalate_cons_cons, List.append_assoc, List.singleton_append] at h
          rcases isInfix_of_append_cons hsep h with h | h
          · exact ⟨first, List.mem_cons_self, h⟩
          · obtain ⟨part, hpart, h⟩ := ih h
            exact ⟨part, List.mem_cons_of_mem _ hpart, h⟩

end Text

namespace Payload

/-- The text that an edit writes. An edit that is no object, or has no string for its new text,
writes none. -/
def writtenText? (edit : Json) : Option String :=
  (edit.member? "new_string").bind Json.string?

/-- The edit that writes a text. -/
def editWriting (text : String) : Json :=
  .object [("new_string", .string text)]

/-- An edit that writes nothing, made to write the empty text. -/
def filled (edit : Json) : Json :=
  if (writtenText? edit).isSome then edit else editWriting ""

theorem editText_eq (edit : Json) : editText edit = (writtenText? edit).getD "" := rfl

theorem editText_filled (edit : Json) : editText (filled edit) = editText edit := by
  unfold filled
  split_ifs with hwrites
  · rfl
  · rw [editText_eq edit, Option.not_isSome_iff_eq_none.mp hwrites]
    rfl

/-- The joined text of some edits holds what one of them writes. -/
theorem isInfix_of_writtenText? {edits : List Json} {edit : Json} {text : String}
    (hmem : edit ∈ edits) (htext : writtenText? edit = some text) :
    text.toList <:+: (" ".intercalate (edits.map editText)).toList := by
  rw [String.toList_intercalate]
  apply Text.isInfix_intercalate_of_mem
  refine List.mem_map.mpr ⟨text, List.mem_map.mpr ⟨edit, hmem, ?_⟩, rfl⟩
  rw [editText_eq, htext, Option.getD_some]

theorem isInfix_editTexts_iff {edits : List Json} {pattern : String} (hpattern : pattern ≠ "")
    (hspace : ' ' ∉ pattern.toList) :
    pattern.toList <:+: (" ".intercalate (edits.map editText)).toList ↔
      ∃ edit ∈ edits, ∃ text, writtenText? edit = some text ∧ pattern.toList <:+: text.toList := by
  have hne : pattern.toList ≠ [] := by simpa using hpattern
  constructor
  · intro h
    rw [String.toList_intercalate] at h
    obtain ⟨part, hpart, h⟩ := Text.exists_mem_of_isInfix_intercalate hne hspace h
    obtain ⟨text, htext, rfl⟩ := List.mem_map.mp hpart
    obtain ⟨edit, hedit, rfl⟩ := List.mem_map.mp htext
    cases hwrites : writtenText? edit with
    | some text =>
        rw [editText_eq, hwrites] at h
        exact ⟨edit, hedit, text, hwrites, h⟩
    | none =>
        rw [editText_eq, hwrites] at h
        exact absurd (List.infix_nil.mp h) hne
  · rintro ⟨edit, hedit, text, htext, h⟩
    exact h.trans (isInfix_of_writtenText? hedit htext)

end Payload

/-! ### Conditions on the new text of a batch -/

namespace Event

/-- The event is the use of the tool for several edits, and its input holds these. -/
structure IsBatch (e : Event) (edits : List Json) : Prop where
  tool : e.toolName = "MultiEdit"
  edits : e.toolInput.find? "edits" = some (.array edits)

def withEdits (e : Event) (edits : List Json) : Event :=
  { e with toolInput := e.toolInput.insert "edits" (.array edits) }

variable {e : Event} {edits : List Json} {field : String}

theorem IsBatch.withEdits (h : e.IsBatch edits) (others : List Json) :
    (e.withEdits others).IsBatch others where
  tool := h.tool
  edits := by rw [Event.withEdits, Dictionary.find?_insert, if_pos rfl]

theorem find?_withEdits (hfield : field = "new_text" ∨ field = "content") (edits : List Json) :
    (e.withEdits edits).toolInput.find? field = e.toolInput.find? field := by
  have hne : field ≠ "edits" := by
    rintro rfl
    rcases hfield with h | h <;> exact absurd h (by decide)
  rw [withEdits, Dictionary.find?_insert, if_neg (by simpa using hne)]

theorem IsBatch.field?_eq (h : e.IsBatch edits) (hfield : field = "new_text" ∨ field = "content")
    (hunset : e.toolInput.find? field = none) (files : FileSystem) :
    e.field? files field = some (" ".intercalate (edits.map Payload.editText)) := by
  have hpayload : e.payload.newText? = some (" ".intercalate (edits.map Payload.editText)) := by
    rw [payload, h.tool, Payload.ofTool, h.edits]
    rfl
  rcases hfield with rfl | rfl
  · unfold field?
    rw [hunset]
    exact hpayload
  · unfold field?
    rw [hunset]
    exact hpayload

/-- The event of a batch of edits and nothing else. -/
def batchOf (edits : List Json) : Event :=
  (ofHookName "PreToolUse").withTool "MultiEdit" (.object [("edits", .array edits)])

theorem isBatch_batchOf (edits : List Json) : (batchOf edits).IsBatch edits where
  tool := rfl
  edits := rfl

end Event

namespace SearchCache

open Event

variable {cache : SearchCache} {e : Event} {files : FileSystem}

theorem holds_congr {e' : Event} {field : String} (h : e.field? files field = e'.field? files field)
    (op : Operator) (pattern : String) :
    cache.holds ⟨field, op, pattern⟩ e files = cache.holds ⟨field, op, pattern⟩ e' files := by
  unfold holds Condition.holds
  rw [h]

theorem holds_contains_iff {edits : List Json} {field : String} (h : e.IsBatch edits)
    (hfield : field = "new_text" ∨ field = "content") (hunset : e.toolInput.find? field = none)
    (pattern : String) :
    cache.holds ⟨field, .contains, pattern⟩ e files = true ↔
      pattern.toList <:+: (" ".intercalate (edits.map Payload.editText)).toList := by
  rw [Condition.holds_contains (h.field?_eq hfield hunset files)]
  exact String.contains_string_iff

theorem holds_contains_batchOf {field : String} (hfield : field = "new_text" ∨ field = "content")
    (edits : List Json) (pattern : String) :
    cache.holds ⟨field, .contains, pattern⟩ (batchOf edits) files =
      decide (pattern.toList <:+: (" ".intercalate (edits.map Payload.editText)).toList) := by
  have hunset : (batchOf edits).toolInput.find? field = none := by
    rcases hfield with rfl | rfl <;> rfl
  rw [Bool.eq_iff_iff, decide_eq_true_iff]
  exact holds_contains_iff (isBatch_batchOf edits) hfield hunset pattern

/-- A condition asks for a text without spaces in what a batch writes exactly as it asks for it in
what the edits write, and it does so without the edits that write nothing. What an edit writes is
found whatever it is and whatever the others write. An edit that writes nothing counts as one that
writes the empty text. -/
theorem holds_contains_batch_iff {edits : List Json} {field : String} (h : e.IsBatch edits)
    (hfield : field = "new_text" ∨ field = "content") (hunset : e.toolInput.find? field = none)
    (cache : SearchCache) (files : FileSystem) :
    (∀ pattern : String, pattern ≠ "" → ' ' ∉ pattern.toList →
      (cache.holds ⟨field, .contains, pattern⟩ e files = true ↔
        ∃ edit ∈ edits, ∃ text, Payload.writtenText? edit = some text ∧
          pattern.toList <:+: text.toList) ∧
      cache.holds ⟨field, .contains, pattern⟩
          (e.withEdits (edits.filter fun edit => (Payload.writtenText? edit).isSome)) files =
        cache.holds ⟨field, .contains, pattern⟩ e files) ∧
    (∀ pattern : String,
      (∃ edit ∈ edits, ∃ text, Payload.writtenText? edit = some text ∧
        pattern.toList <:+: text.toList) →
      cache.holds ⟨field, .contains, pattern⟩ e files = true) ∧
    ∀ op pattern, cache.holds ⟨field, op, pattern⟩ (e.withEdits (edits.map Payload.filled)) files =
      cache.holds ⟨field, op, pattern⟩ e files := by
  have hothers : ∀ others, (e.withEdits others).toolInput.find? field = none := by
    intro others
    rw [Event.find?_withEdits hfield, hunset]
  refine ⟨?_, ?_, ?_⟩
  · intro pattern hpattern hspace
    have hiff : cache.holds ⟨field, .contains, pattern⟩ e files = true ↔ _ :=
      (holds_contains_iff h hfield hunset pattern).trans
        (Payload.isInfix_editTexts_iff hpattern hspace)
    refine ⟨hiff, ?_⟩
    rw [Bool.eq_iff_iff, hiff, holds_contains_iff (h.withEdits _) hfield (hothers _),
      Payload.isInfix_editTexts_iff hpattern hspace]
    constructor
    · rintro ⟨edit, hedit, hwrites⟩
      exact ⟨edit, (List.mem_filter.mp hedit).1, hwrites⟩
    · rintro ⟨edit, hedit, text, htext, hinfix⟩
      exact ⟨edit, List.mem_filter.mpr ⟨hedit, by rw [htext]; rfl⟩, text, htext, hinfix⟩
  · rintro pattern ⟨edit, hedit, text, htext, hinfix⟩
    rw [holds_contains_iff h hfield hunset]
    exact hinfix.trans (Payload.isInfix_of_writtenText? hedit htext)
  · intro op pattern
    apply holds_congr
    have htexts : (edits.map Payload.filled).map Payload.editText = edits.map Payload.editText := by
      rw [List.map_map]
      exact List.map_congr_left fun edit _ => Payload.editText_filled edit
    rw [(h.withEdits _).field?_eq hfield (hothers _), h.field?_eq hfield hunset, htexts]

/-- Edits of which one writes nothing. -/
def mixedEdits : List Json :=
  [Payload.editWriting "rm", .null, Payload.editWriting "ls -a"]

theorem holds_contains_batch_iff_mixedEdits :
    (batchOf mixedEdits).IsBatch mixedEdits ∧
    (batchOf mixedEdits).toolInput.find? "content" = none ∧
      empty.holds ⟨"content", .contains, "ls"⟩ (batchOf mixedEdits) ⟨.directory [], []⟩ = true ∧
      empty.holds ⟨"content", .contains, "ml"⟩ (batchOf mixedEdits) ⟨.directory [], []⟩ = false ∧
      empty.holds ⟨"content", .contains, "s -"⟩ (batchOf mixedEdits)
        ⟨.directory [], []⟩ = true := by
  have hbatch := isBatch_batchOf mixedEdits
  have hunset : (batchOf mixedEdits).toolInput.find? "content" = none := by decide
  obtain ⟨hplain, hany, -⟩ :=
    holds_contains_batch_iff hbatch (Or.inr rfl) hunset empty ⟨.directory [], []⟩
  have hedit : Payload.editWriting "ls -a" ∈ mixedEdits := by simp [mixedEdits]
  refine ⟨hbatch, hunset, ?_, ?_, ?_⟩
  · exact (hplain "ls" (by decide) (by decide)).1.mpr ⟨_, hedit, "ls -a", by decide, by decide⟩
  · rw [holds_contains_batchOf (Or.inr rfl)]
    decide
  · exact hany "s -" ⟨_, hedit, "ls -a", by decide, by decide⟩

/-- Edits that write nothing let a batch hold a space that no edit writes, and they part the texts
of their neighbours further. -/
theorem holds_contains_blankEdits :
    (batchOf [.object [], .object []]).IsBatch [.object [], .object []] ∧
      (batchOf [.object [], .object []]).toolInput.find? "new_text" = none ∧
      (∀ edit ∈ [Json.object [], .object []], Payload.writtenText? edit = none) ∧
      empty.holds ⟨"new_text", .contains, " "⟩ (batchOf [.object [], .object []])
        ⟨.directory [], []⟩ = true ∧
      empty.holds ⟨"new_text", .contains, " "⟩ (batchOf []) ⟨.directory [], []⟩ = false ∧
      empty.holds ⟨"new_text", .contains, "a b"⟩
        (batchOf [Payload.editWriting "a", .object [], Payload.editWriting "b"])
          ⟨.directory [], []⟩ = false ∧
      empty.holds ⟨"new_text", .contains, "a b"⟩
        (batchOf [Payload.editWriting "a", Payload.editWriting "b"])
          ⟨.directory [], []⟩ = true := by
  refine ⟨isBatch_batchOf _, by decide, by decide, ?_, ?_, ?_, ?_⟩
  all_goals
    rw [holds_contains_batchOf (Or.inl rfl)]
    decide

end SearchCache

end RuleGate
