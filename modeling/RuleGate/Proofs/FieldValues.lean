import RuleGate.Condition
import RuleGate.Proofs.Dictionary
import RuleGate.Proofs.TextCutting

/-! Which fields of an event have a value. Three layers answer for a name: the members of the tool's
input, the members of the event, and what the name means for the tool. A field without a value
fulfils no condition, not even one that asks for the absence of a text. -/

namespace RuleGate

/-! ### What a name means for a tool -/

namespace Payload

def fieldNames : Payload → List String
  | .command _ => ["command"]
  | .fileEdit _ _ _ _ =>
    ["content", "new_text", "new_string", "old_text", "old_string", "file_path"]
  | .multiEdit _ none => ["file_path"]
  | .multiEdit _ (some _) => ["content", "new_text", "file_path"]
  | .other => []

theorem field?_eq_none_iff (p : Payload) (name : String) :
    p.field? name = none ↔ name ∉ p.fieldNames := by
  unfold field?
  split
  all_goals
    cases p with
    | multiEdit filePath newTexts =>
        cases newTexts <;>
          simp_all [fieldNames, commandLine?, newText?, oldText?, filePath?, isFileEdit]
    | _ => simp_all [fieldNames, commandLine?, newText?, oldText?, filePath?, isFileEdit]

end Payload

namespace Event

/-- The tool of an event has a value for a name: a tool that runs commands for the command line, one
that edits a file for the file and for its old and new text, and one that makes several edits for
the file, and for the new text if the edits are there. -/
inductive ToolField (e : Event) (name : String) : Prop where
  | command (htool : e.toolName = "Bash") (hname : name = "command")
  | edit (htool : e.toolName = "Write" ∨ e.toolName = "Edit")
      (hname : name ∈ ["content", "new_text", "new_string", "old_text", "old_string", "file_path"])
  | batchPath (htool : e.toolName = "MultiEdit") (hname : name = "file_path")
  | batchText (htool : e.toolName = "MultiEdit") (hname : name = "content" ∨ name = "new_text")
      (edits : List Json) (hedits : e.toolInput.find? "edits" = some (.array edits))

variable {e : Event} {name : String}

theorem bind_array?_eq_some_iff {value : Option Json} {edits : List Json} :
    value.bind Json.array? = some edits ↔ value = some (.array edits) := by
  rw [Option.bind_eq_some_iff]
  constructor
  · rintro ⟨v, rfl, hedits⟩
    cases v with
    | array items =>
        cases hedits
        rfl
    | _ => cases hedits
  · rintro rfl
    exact ⟨_, rfl, rfl⟩

theorem mem_fieldNames_of_toolField (h : e.ToolField name) : name ∈ e.payload.fieldNames := by
  cases h with
  | command htool hname =>
      rw [payload, htool]
      exact List.mem_singleton.mpr hname
  | edit htool hname =>
      rcases htool with htool | htool
      · rw [payload, htool]
        exact hname
      · rw [payload, htool]
        exact hname
  | batchPath htool hname =>
      rw [payload, htool, Payload.ofTool, hname]
      cases (e.toolInput.find? "edits").bind Json.array? with
      | none => simp [Payload.fieldNames]
      | some edits => simp [Payload.fieldNames]
  | batchText htool hname edits hedits =>
      rw [payload, htool, Payload.ofTool, hedits]
      rcases hname with rfl | rfl
      · simp [Payload.fieldNames, Json.array?]
      · simp [Payload.fieldNames, Json.array?]

theorem toolField_of_mem_fieldNames (h : name ∈ e.payload.fieldNames) : e.ToolField name := by
  unfold payload Payload.ofTool at h
  split at h
  · rename_i htool
    exact .command htool (List.mem_singleton.mp h)
  · rename_i htool
    exact .edit (Or.inl htool) h
  · rename_i htool
    exact .edit (Or.inr htool) h
  · rename_i htool
    cases hedits : (e.toolInput.find? "edits").bind Json.array? with
    | none =>
        rw [hedits] at h
        exact .batchPath htool (List.mem_singleton.mp h)
    | some edits =>
        rw [hedits] at h
        have hname : name = "content" ∨ name = "new_text" ∨ name = "file_path" := by
          simpa [Payload.fieldNames] using h
        rcases hname with hname | hname | hname
        · exact .batchText htool (Or.inl hname) edits (bind_array?_eq_some_iff.mp hedits)
        · exact .batchText htool (Or.inr hname) edits (bind_array?_eq_some_iff.mp hedits)
        · exact .batchPath htool hname
  · exact absurd h List.not_mem_nil

/-! ### The three layers -/

theorem field?_eq_none_iff {files : FileSystem} :
    e.field? files name = none ↔
      e.toolInput.find? name = none ∧ name ∉ ["reason", "transcript", "user_prompt"] ∧
      ¬ e.ToolField name := by
  have htool : e.payload.field? name = none ↔ ¬ e.ToolField name := by
    rw [Payload.field?_eq_none_iff]
    exact not_congr ⟨toolField_of_mem_fieldNames, mem_fieldNames_of_toolField⟩
  unfold field?
  cases e.toolInput.find? name with
  | some value => simp
  | none =>
      rw [← htool]
      dsimp only
      split <;> simp_all

/-- The use of the tool for several edits with an input that holds no edits. -/
def untypedBatch : Event :=
  (ofHookName "PreToolUse").withTool "MultiEdit" (.object [("edits", .string "[]")])

end Event

/-! ### Conditions -/

/-- Whether an event fulfils a condition when it is judged with a cache. -/
def SearchCache.holds (cache : SearchCache) (c : Condition) (e : Event)
    (files : FileSystem) : Bool :=
  ((c.holds e files).runWith cache).1

namespace Condition

variable {e : Event} {files : FileSystem} {name : String}

theorem runWith_holds_of_none (h : e.field? files name = none) (op : Operator) (pattern : String)
    (cache : SearchCache) :
    ((mk name op pattern).holds e files).runWith cache = (false, ⟨cache, []⟩) := by
  unfold holds
  rw [h]
  rfl

theorem holds_contains {value : String} (h : e.field? files name = some value) (pattern : String)
    (cache : SearchCache) :
    cache.holds ⟨name, .contains, pattern⟩ e files = value.contains pattern := by
  unfold SearchCache.holds holds
  rw [h]
  rfl

theorem holds_notContains {value : String} (h : e.field? files name = some value) (pattern : String)
    (cache : SearchCache) :
    cache.holds ⟨name, .notContains, pattern⟩ e files = !value.contains pattern := by
  unfold SearchCache.holds holds
  rw [h]
  rfl

/-- A field has no value exactly if the tool's input has no member with its name, it is none of the
members of the event, and the tool has no value for it. Then it fulfils no condition, and judging it
changes nothing. If it has a value, every text is either contained in it or not. -/
theorem field?_eq_none_iff_and_holds (e : Event) (files : FileSystem) (name : String) :
    (e.field? files name = none ↔
      e.toolInput.find? name = none ∧
      name ∉ ["reason", "transcript", "user_prompt"] ∧ ¬ e.ToolField name) ∧
    (e.field? files name = none → ∀ op pattern cache,
      ((mk name op pattern).holds e files).runWith cache = (false, ⟨cache, []⟩)) ∧
    ((e.field? files name).isSome = true → ∀ pattern (cache : SearchCache),
      cache.holds ⟨name, .notContains, pattern⟩ e files =
        !cache.holds ⟨name, .contains, pattern⟩ e files) := by
  refine ⟨Event.field?_eq_none_iff, runWith_holds_of_none, ?_⟩
  intro hsome pattern cache
  obtain ⟨value, hvalue⟩ := Option.isSome_iff_exists.mp hsome
  rw [holds_contains hvalue, holds_notContains hvalue]

theorem field?_eq_none_iff_and_holds_untypedBatch :
    Event.untypedBatch.field? ⟨.directory [], []⟩ "content" = none ∧
      ((mk "content" .notContains "x").holds .untypedBatch ⟨.directory [], []⟩).runWith .empty =
        (false, ⟨.empty, []⟩) ∧
      (Event.untypedBatch.field? ⟨.directory [], []⟩ "file_path").isSome = true ∧
      SearchCache.empty.holds ⟨"file_path", .notContains, "x"⟩ .untypedBatch ⟨.directory [], []⟩ =
        !SearchCache.empty.holds ⟨"file_path", .contains, "x"⟩ .untypedBatch
          ⟨.directory [], []⟩ := by
  have hnone : Event.untypedBatch.field? ⟨.directory [], []⟩ "content" = none := rfl
  have hsome : (Event.untypedBatch.field? ⟨.directory [], []⟩ "file_path").isSome = true := rfl
  refine ⟨hnone, ?_, hsome, ?_⟩
  · exact (field?_eq_none_iff_and_holds .untypedBatch _ "content").2.1 hnone .notContains "x" .empty
  · exact (field?_eq_none_iff_and_holds .untypedBatch _ "file_path").2.2 hsome "x" .empty

end Condition

end RuleGate
