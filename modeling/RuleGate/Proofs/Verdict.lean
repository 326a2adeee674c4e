import RuleGate.Gate
import RuleGate.Proofs.PureJudgement
import RuleGate.Proofs.RuleFiles

/-! When an invocation of the gate blocks. The verdict rests on the event and on the enabled rules
that block, wherever they stand among the rule files; nothing else in the directories has a say. -/

namespace RuleGate

/-! ### The shape of a decision -/

theorem Event.hook?_eq_some_iff {e : Event} {hook : Hook} :
    e.hook? = some hook ↔ e.hookName = hook.eventName := by
  constructor
  · intro h
    exact (Hook.eventName_of_ofEventName? h).symm
  · intro h
    rw [hook?, h, Hook.ofEventName?_eventName]

/-- The events of these hooks can be blocked. -/
def Event.CanBeBlocked (e : Event) : Prop :=
  e.hookName = "Stop" ∨ e.hookName = "PreToolUse" ∨ e.hookName = "PostToolUse"

namespace Decision

theorem isBlocking_blocking_iff {e : Event} {message : String} :
    (blocking e message).isBlocking = true ↔ e.CanBeBlocked := by
  have hstop := @Event.hook?_eq_some_iff e .stop
  have hpre := @Event.hook?_eq_some_iff e .preToolUse
  have hpost := @Event.hook?_eq_some_iff e .postToolUse
  rw [Event.CanBeBlocked]
  change _ ↔ e.hookName = Hook.stop.eventName ∨ e.hookName = Hook.preToolUse.eventName ∨
    e.hookName = Hook.postToolUse.eventName
  rw [← hstop, ← hpre, ← hpost, blocking]
  cases e.hook? with
  | none => simp [inform, isBlocking]
  | some hook => cases hook <;> simp [inform, blockStop, denyTool, isBlocking]

/-- Of the rules that fire only those that block make a decision that blocks. -/
theorem isBlocking_ofFiring_iff {e : Event} {firing : List Rule} :
    (ofFiring e firing).isBlocking = true ↔ e.CanBeBlocked ∧ ∃ r ∈ firing, r.action = .block := by
  have hexists : (∃ r ∈ firing, r.action = .block) ↔
      (firing.filter (·.action == .block)).isEmpty = false := by
    rw [List.isEmpty_eq_false_iff_exists_mem]
    simp only [List.mem_filter, beq_iff_eq]
  rw [hexists]
  cases hblockers : (firing.filter (·.action == .block)).isEmpty with
  | false =>
      simp only [ofFiring, hblockers, Bool.not_false, if_true, and_true]
      exact isBlocking_blocking_iff
  | true =>
      simp only [ofFiring, hblockers, Bool.not_true, Bool.false_eq_true, if_false, reduceCtorEq,
        and_false, iff_false]
      split_ifs <;> simp [inform, allow, isBlocking]

end Decision

/-! ### The verdict -/

namespace Gate

structure Blocks (hook : Hook) (e : Event) (files : FileSystem) (r : Rule) : Prop where
  enabled : r.enabled = true
  action : r.action = .block
  asked : r.event.isAskedBy (hook.scope? e.toolName) = true
  admitted : r.admits e.toolName = true
  conditional : r.conditions ≠ []
  met : ∀ c ∈ r.conditions, ∃ value, e.field? files c.field = some value ∧
    c.operator.Holds value c.pattern

theorem blocks_iff {hook : Hook} {e : Event} {files : FileSystem} {r : Rule} :
    Blocks hook e files r ↔ (r.enabled = true ∧ r.event.isAskedBy (hook.scope? e.toolName) = true) ∧
      r.isMet e files = true ∧ r.action = .block := by
  rw [Rule.isMet_iff]
  constructor
  · rintro ⟨henabled, haction, hasked, hadmitted, hconditional, hholds⟩
    exact ⟨⟨henabled, hasked⟩, ⟨hadmitted, hconditional, hholds⟩, haction⟩
  · rintro ⟨⟨henabled, hasked⟩, ⟨hadmitted, hconditional, hholds⟩, haction⟩
    exact ⟨henabled, haction, hasked, hadmitted, hconditional, hholds⟩

def FileHolds (sources : RuleDirectories) (files : FileSystem) (path : String) (r : Rule) : Prop :=
  sources.RuleFile files path ∧
    ∃ content, files.read path = .ok content ∧ Rule.ofText content (some path) = .ok r

/-- A judgement decides as the rules that are loaded and fire do. -/
theorem result_judge (hook : Hook) (e : Event) (sources : RuleDirectories) (files : FileSystem) :
    (judge hook e sources files).result =
      Decision.ofFiring e
        ((sources.load files (hook.scope? e.toolName)).rules.filter (·.isMet e files)) :=
  congrArg Prod.fst (Decision.judge_gives _ e files ⟨SearchCache.empty, []⟩ SearchCache.sound_empty)

theorem isBlocking_judge_iff {hook : Hook} {e : Event} {sources : RuleDirectories}
    {files : FileSystem} :
    (judge hook e sources files).result.isBlocking = true ↔
      e.CanBeBlocked ∧ ∃ path r, FileHolds sources files path r ∧ Blocks hook e files r := by
  rw [result_judge, Decision.isBlocking_ofFiring_iff]
  simp only [List.mem_filter, RuleDirectories.mem_load_iff, Rule.ofFile_eq_ok_iff, FileHolds,
    blocks_iff]
  constructor
  · rintro ⟨hcan, r, ⟨⟨⟨path, hfile⟩, hloaded⟩, hmet⟩, haction⟩
    exact ⟨hcan, path, r, hfile, hloaded, hmet, haction⟩
  · rintro ⟨hcan, path, r, hfile, hloaded, hmet, haction⟩
    exact ⟨hcan, r, ⟨⟨⟨path, hfile⟩, hloaded⟩, hmet⟩, haction⟩

/-- The event that an input holds, if it has text and the text is an event. -/
def InputHolds (input : String) (e : Event) : Prop :=
  Text.trim input.toList ≠ [] ∧ Event.ofText? (String.ofList (Text.trim input.toList)) = .ok e

theorem process_of_blank {hook : Hook} {input : String} {sources : RuleDirectories}
    {files : FileSystem} (h : Text.trim input.toList = []) :
    process hook input sources files = ⟨.allow, [.noInput]⟩ := by
  simp [process, run, h]

theorem process_of_ofText? {hook : Hook} {input : String} {sources : RuleDirectories}
    {files : FileSystem} (h : Text.trim input.toList ≠ []) :
    (process hook input sources files).result =
      match Event.ofText? (String.ofList (Text.trim input.toList)) with
      | .error e => .report (GateError.json e).message
      | .ok e => (judge hook e sources files).result := by
  have hne : String.ofList (Text.trim input.toList) ≠ "" := by
    intro heq
    exact h (String.ofList_injective heq)
  rw [process, run]
  simp only [hne, if_false]
  cases Event.ofText? (String.ofList (Text.trim input.toList)) with
  | error e => rfl
  | ok e => rfl

theorem isBlocking_process_iff_judge {hook : Hook} {input : String} {sources : RuleDirectories}
    {files : FileSystem} :
    (process hook input sources files).result.isBlocking = true ↔
      ∃ e, InputHolds input e ∧ (judge hook e sources files).result.isBlocking = true := by
  by_cases htext : Text.trim input.toList = []
  · rw [process_of_blank htext]
    simp [htext, InputHolds, Decision.allow, Decision.isBlocking]
  · rw [process_of_ofText? htext]
    cases hevent : Event.ofText? (String.ofList (Text.trim input.toList)) with
    | error e => simp [hevent, InputHolds, Decision.report, Decision.inform, Decision.isBlocking]
    | ok e => simp [htext, hevent, InputHolds]

/-! ### What has no say -/

/-- Of the files an event sees the transcript alone. -/
theorem field?_congr {e : Event} {files files' : FileSystem}
    (h : e.transcriptText files = e.transcriptText files') (name : String) :
    e.field? files name = e.field? files' name := by
  simp only [Event.field?, h]

theorem Blocks.congr {hook : Hook} {e : Event} {files files' : FileSystem} {r : Rule}
    (h : e.transcriptText files = e.transcriptText files') (hr : Blocks hook e files r) :
    Blocks hook e files' r where
  enabled := hr.enabled
  action := hr.action
  asked := hr.asked
  admitted := hr.admitted
  conditional := hr.conditional
  met c hc := field?_congr h c.field ▸ hr.met c hc

/-- Rule files that hold the same enabled rules that block lead to the same verdict. -/
theorem isBlocking_judge_congr {hook : Hook} {e : Event} {sources : RuleDirectories}
    {files files' : FileSystem} (htranscript : e.transcriptText files = e.transcriptText files')
    (hrules : ∀ path r, r.enabled = true → r.action = .block →
      FileHolds sources files path r → FileHolds sources files' path r)
    (h : (judge hook e sources files).result.isBlocking = true) :
    (judge hook e sources files').result.isBlocking = true := by
  rw [isBlocking_judge_iff] at h ⊢
  obtain ⟨hcan, path, r, hfile, hblocks⟩ := h
  exact ⟨hcan, path, r, hrules path r hblocks.enabled hblocks.action hfile,
    hblocks.congr htranscript⟩

/-- An invocation blocks exactly if its input holds an event that can be blocked and some rule file
holds a rule that blocks it. Files that hold no enabled rule that blocks have no say, and neither
have rules that warn, unless the event takes its transcript from them. -/
theorem isBlocking_process_iff (hook : Hook) (input : String) (sources : RuleDirectories) :
    (∀ files, (process hook input sources files).result.isBlocking = true ↔
      ∃ e, InputHolds input e ∧ e.CanBeBlocked ∧
        ∃ path r, FileHolds sources files path r ∧ Blocks hook e files r) ∧
    ∀ files files',
      (∀ e, InputHolds input e → e.transcriptText files = e.transcriptText files') →
      (∀ path r, r.enabled = true → r.action = .block →
        (FileHolds sources files path r ↔ FileHolds sources files' path r)) →
      (process hook input sources files).result.isBlocking =
        (process hook input sources files').result.isBlocking := by
  constructor
  · intro files
    rw [isBlocking_process_iff_judge]
    simp only [isBlocking_judge_iff]
  · intro files files' htranscript hrules
    rw [Bool.eq_iff_iff, isBlocking_process_iff_judge, isBlocking_process_iff_judge]
    constructor
    · rintro ⟨e, he, h⟩
      exact ⟨e, he, isBlocking_judge_congr (htranscript e he)
        (fun path r henabled haction => (hrules path r henabled haction).mp) h⟩
    · rintro ⟨e, he, h⟩
      exact ⟨e, he, isBlocking_judge_congr (htranscript e he).symm
        (fun path r henabled haction => (hrules path r henabled haction).mpr) h⟩

/-- The enabled rules that block, with the paths of their files. -/
def blockersIn (sources : RuleDirectories) (files : FileSystem) : List (String × Rule) :=
  (sources.paths files).filterMap fun path =>
    ((RuleDirectories.rule? files path).filter
      fun r => r.enabled && r.action == .block).map (path, ·)

theorem mem_blockersIn_iff {sources : RuleDirectories} {files : FileSystem} {path : String}
    {r : Rule} :
    (path, r) ∈ blockersIn sources files ↔
      FileHolds sources files path r ∧ r.enabled = true ∧ r.action = .block := by
  rw [blockersIn, List.mem_filterMap, FileHolds, ← Rule.ofFile_eq_ok_iff]
  constructor
  · rintro ⟨other, hother, hfound⟩
    obtain ⟨found, hfilter, heq⟩ := Option.map_eq_some_iff.mp hfound
    cases heq
    obtain ⟨hrule, hblocks⟩ := Option.filter_eq_some_iff.mp hfilter
    simp only [Bool.and_eq_true, beq_iff_eq] at hblocks
    exact ⟨⟨RuleDirectories.mem_paths_iff.mp hother, RuleDirectories.rule?_eq_some_iff.mp hrule⟩,
      hblocks⟩
  · rintro ⟨⟨hfile, hrule⟩, henabled, haction⟩
    refine ⟨path, RuleDirectories.mem_paths_iff.mpr hfile, ?_⟩
    rw [RuleDirectories.rule?_eq_some_iff.mpr hrule]
    simp [henabled, haction]

/-- The stop of a host that says why. -/
def stopInput : String := "\x7b\"hook_event_name\":\"Stop\",\"reason\":\"done\"\x7d"

/-- A project in which the file of a rule that blocks such a stop stands beside others. -/
def projectWith (others : List (String × FileNode)) : FileSystem :=
  let rule :=
    "---\naction: block\nconditions:\n  - field: reason\n    operator: equals\n" ++
      "    pattern: done\n---\nNo."
  ⟨.directory [(".claude", .directory (("hookify.a.local.md", .file rule.toUTF8) :: others))], []⟩

/-- A file without a rule, and one whose rule warns about every reason. -/
def idleFiles : List (String × FileNode) :=
  [("hookify.b.local.md", .file "No rule.".toUTF8),
    ("hookify.c.local.md", .file "---\nconditions:\n  - field: reason\n---\n".toUTF8)]

theorem isBlocking_process_beside_idleFiles :
    (process .stop stopInput .default (projectWith [])).result.isBlocking = true ∧
      (process .stop stopInput .default (projectWith [])).result.isBlocking =
        (process .stop stopInput .default (projectWith idleFiles)).result.isBlocking := by
  refine ⟨by decide +kernel, (isBlocking_process_iff _ _ _).2 _ _ ?_ ?_⟩
  · rintro e ⟨-, he⟩
    have hpath : (Event.ofText? (String.ofList (Text.trim stopInput.toList))).toOption.map
        (·.transcriptPath?) = some none := by decide +kernel
    rw [he] at hpath
    have hnone : e.transcriptPath? = none := Option.some.inj hpath
    simp only [Event.transcriptText, Event.transcript, hnone]
  · intro path r henabled haction
    have hsame : blockersIn .default (projectWith []) =
        blockersIn .default (projectWith idleFiles) := by
      decide +kernel
    have hiff := @mem_blockersIn_iff .default (projectWith []) path r
    rw [hsame, mem_blockersIn_iff] at hiff
    simpa [henabled, haction] using hiff.symm

end Gate

end RuleGate
