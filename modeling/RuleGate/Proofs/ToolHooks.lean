import RuleGate.Proofs.Verdict

/-! Which rules decide at the hooks of tools. The hook of a known tool asks for the rules of the
tool's scope, so no rule for stops or prompts decides there. A tool that is not known has no scope:
its hooks ask for every enabled rule, whatever it was written for. -/

namespace RuleGate

/-! ### The rules that decide -/

namespace Decision

/-- Of the rules that fire, those that make the decision: the ones that block, or if none does, the
ones that warn. -/
def deciding (firing : List Rule) : List Rule :=
  let blockers := firing.filter (·.action == .block)
  if blockers.isEmpty then firing.filter (·.action == .warn) else blockers

theorem mem_of_mem_deciding {firing : List Rule} {r : Rule}
    (h : r ∈ deciding firing) : r ∈ firing := by
  rw [deciding] at h
  split_ifs at h
  · exact (List.mem_filter.mp h).1
  · exact (List.mem_filter.mp h).1

/-- The rules that decide make the decision alone. -/
theorem ofFiring_deciding (e : Event) (firing : List Rule) :
    ofFiring e (deciding firing) = ofFiring e firing := by
  have hnone : (firing.filter (·.action == .warn)).filter (·.action == .block) = [] := by
    rw [List.filter_eq_nil_iff]
    intro r hr hblock
    have hwarn := (List.mem_filter.mp hr).2
    rw [beq_iff_eq] at hwarn hblock
    exact absurd (hwarn.symm.trans hblock) (by decide)
  rw [deciding]
  cases hblockers : (firing.filter (·.action == .block)).isEmpty with
  | true => simp [ofFiring, hnone, hblockers]
  | false => simp [ofFiring, hblockers]

theorem message?_blocking (e : Event) (message : String) :
    (blocking e message).message? = some message := by
  rw [blocking]
  split <;> rfl

/-- A decision shows the messages of the rules that decide, and of no others. -/
theorem message?_ofFiring (e : Event) (firing : List Rule) :
    (ofFiring e firing).message? =
      if (deciding firing).isEmpty then none else some (Rule.render (deciding firing)) := by
  rw [ofFiring, deciding]
  cases hblockers : (firing.filter (·.action == .block)).isEmpty with
  | false => simp [hblockers, message?_blocking]
  | true =>
      cases hwarners : (firing.filter (·.action == .warn)).isEmpty with
      | false => simp [hwarners, inform]
      | true => simp [hwarners, allow]

end Decision

/-! ### Scopes of tools -/

theorem Scope.ofTool?_eq_none_iff {tool : String} :
    ofTool? tool = none ↔ tool ∉ ["Bash", "Edit", "Write", "MultiEdit"] := by
  rw [ofTool?.eq_def]
  split <;> simp_all

theorem Scope.of_ofTool?_eq_some {tool : String} {scope : Scope} (h : ofTool? tool = some scope) :
    scope = .bash ∨ scope = .file := by
  rw [ofTool?.eq_def] at h
  split at h <;> simp_all

theorem Hook.scope?_of_isToolHook {hook : Hook} (h : hook.isToolHook = true) (tool : String) :
    hook.scope? tool = Scope.ofTool? tool := by
  cases hook with
  | preToolUse => rfl
  | postToolUse => rfl
  | stop => exact absurd h (by decide)
  | userPromptSubmit => exact absurd h (by decide)

/-- A known tool asks for no rule that was written for stops or prompts. -/
theorem EventClass.ne_of_isAskedBy_ofTool? {event : EventClass} {tool : String} {scope : Scope}
    (hscope : Scope.ofTool? tool = some scope) (h : event.isAskedBy (some scope) = true) :
    event ≠ .stop ∧ event ≠ .prompt := by
  constructor
  all_goals
    rintro rfl
    rcases Scope.of_ofTool?_eq_some hscope with rfl | rfl <;> exact absurd h (by decide)

/-! ### The hooks of tools -/

namespace Gate

/-- The rules that make the decision about an event at a hook. -/
def deciders (hook : Hook) (e : Event) (sources : RuleDirectories)
    (files : FileSystem) : List Rule :=
  Decision.deciding ((sources.load files (hook.scope? e.toolName)).rules.filter (·.isMet e files))

theorem result_judge_deciders (hook : Hook) (e : Event) (sources : RuleDirectories)
    (files : FileSystem) :
    (judge hook e sources files).result = Decision.ofFiring e (deciders hook e sources files) := by
  rw [result_judge, deciders, Decision.ofFiring_deciding]

theorem message?_judge (hook : Hook) (e : Event) (sources : RuleDirectories) (files : FileSystem) :
    (judge hook e sources files).result.message? =
      if (deciders hook e sources files).isEmpty then none
      else some (Rule.render (deciders hook e sources files)) := by
  rw [result_judge, Decision.message?_ofFiring, deciders]

theorem isAskedBy_of_mem_deciders {hook : Hook} {e : Event} {sources : RuleDirectories}
    {files : FileSystem} {r : Rule} (h : r ∈ deciders hook e sources files) :
    r.event.isAskedBy (hook.scope? e.toolName) = true := by
  have hloaded := (List.mem_filter.mp (Decision.mem_of_mem_deciding h)).1
  exact (RuleDirectories.mem_load_iff.mp hloaded).2.2

theorem result_process {input : String} {e : Event} (he : InputHolds input e) (hook : Hook)
    (sources : RuleDirectories) (files : FileSystem) :
    (process hook input sources files).result = (judge hook e sources files).result := by
  rw [process_of_ofText? he.1, he.2]

/-- At the hooks of tools no rule that was written for stops or prompts makes the decision if the
tool is known. If it is not, every enabled rule that fires has its say. -/
theorem event_of_mem_deciders (hook : Hook) (htool : hook.isToolHook = true) (input : String)
    (e : Event) (he : InputHolds input e) (sources : RuleDirectories) (files : FileSystem) :
    (process hook input sources files).result =
      Decision.ofFiring e (deciders hook e sources files) ∧
      (process hook input sources files).result.message? =
        (if (deciders hook e sources files).isEmpty then none
        else some (Rule.render (deciders hook e sources files))) ∧
      (e.toolName ∈ ["Bash", "Edit", "Write", "MultiEdit"] →
        ∀ r ∈ deciders hook e sources files, r.event ≠ .stop ∧ r.event ≠ .prompt) ∧
      (e.toolName ∉ ["Bash", "Edit", "Write", "MultiEdit"] →
        deciders hook e sources files =
          Decision.deciding ((sources.enabledRules files).filter (·.isMet e files))) := by
  have hscope := Hook.scope?_of_isToolHook htool e.toolName
  rw [result_process he]
  refine ⟨result_judge_deciders hook e sources files, message?_judge hook e sources files, ?_, ?_⟩
  · intro hknown r hr
    obtain ⟨scope, hsome⟩ := Option.ne_none_iff_exists'.mp fun hnone =>
      Scope.ofTool?_eq_none_iff.mp hnone hknown
    have hasked := isAskedBy_of_mem_deciders hr
    rw [hscope, hsome] at hasked
    exact EventClass.ne_of_isAskedBy_ofTool? hsome hasked
  · intro hunknown
    rw [deciders, hscope, Scope.ofTool?_eq_none_iff.mpr hunknown, RuleDirectories.rules_load_none]

def commandRule : Rule where
  name := "unnamed"
  enabled := true
  event := .bash
  ownPattern? := none
  conditions := [⟨"command", .contains, ""⟩]
  action := .block
  tools? := none
  message := ""
  source? := some ".claude/hookify.a.local.md"

/-- A rule that blocks stops for which no tests are named. -/
def stopRule : Rule where
  name := "unnamed"
  enabled := true
  event := .stop
  ownPattern? := none
  conditions := [⟨"reason", .notContains, "tests"⟩]
  action := .block
  tools? := none
  message := "Run the tests."
  source? := some ".claude/hookify.b.local.md"

def testedProject : FileSystem :=
  let commandFile :=
    "---\nevent: bash\naction: block\nconditions:\n- field: command, operator: contains\n---"
  let stopFile :=
    "---\nevent: stop\naction: block\nconditions:\n" ++
      "- field: reason, operator: not_contains, pattern: tests\n---\nRun the tests."
  ⟨.directory [(".claude", .directory [("hookify.a.local.md", .file commandFile.toUTF8),
    ("hookify.b.local.md", .file stopFile.toUTF8)])], []⟩

theorem enabledRules_testedProject :
    RuleDirectories.default.enabledRules testedProject = [commandRule, stopRule] := by
  decide +kernel

def toolEvent (tool : String) : Event :=
  { Event.ofHookName "PreToolUse" with toolName? := some tool }

def bashInput : String := "\x7b\"hook_event_name\":\"PreToolUse\",\"tool_name\":\"Bash\"\x7d"

def readInput : String := "\x7b\"hook_event_name\":\"PreToolUse\",\"tool_name\":\"Read\"\x7d"

theorem event_of_mem_deciders_bash :
    Hook.preToolUse.isToolHook = true ∧ InputHolds bashInput (toolEvent "Bash") ∧
      deciders .preToolUse (toolEvent "Bash") .default testedProject = [commandRule] ∧
      ∀ r ∈ deciders .preToolUse (toolEvent "Bash") .default testedProject,
        r.event ≠ .stop ∧ r.event ≠ .prompt := by
  have hinput : InputHolds bashInput (toolEvent "Bash") := ⟨by decide, by decide +kernel⟩
  have hmet : commandRule.isMet (toolEvent "Bash") testedProject = true :=
    (Rule.isMet_iff _ _ _).mpr ⟨by decide, by decide, List.forall_mem_singleton.mpr
      ⟨"", by decide +kernel, by decide⟩⟩
  have hasked : [commandRule, stopRule].filter
      (·.event.isAskedBy (Hook.preToolUse.scope? (toolEvent "Bash").toolName)) =
          [commandRule] := by decide
  refine ⟨rfl, hinput, ?_, ?_⟩
  · rw [deciders, RuleDirectories.rules_load, enabledRules_testedProject, hasked]
    simp only [List.filter_cons, hmet, if_true, List.filter_nil]
    rfl
  · exact (event_of_mem_deciders .preToolUse rfl _ _ hinput .default testedProject).2.2.1
      (by decide)

/-- A rule that was written for stops denies the use of a tool that is not known. -/
theorem stopRule_denies_read :
    Hook.preToolUse.isToolHook = true ∧ InputHolds readInput (toolEvent "Read") ∧
      deciders .preToolUse (toolEvent "Read") .default testedProject = [stopRule] ∧
      stopRule.event = .stop ∧
      (process .preToolUse readInput .default testedProject).result =
        .denyTool "PreToolUse" "**[unnamed]**\nRun the tests." := by
  have hinput : InputHolds readInput (toolEvent "Read") := ⟨by decide, by decide +kernel⟩
  have hcommand : commandRule.isMet (toolEvent "Read") testedProject = false := by decide +kernel
  have hstop : stopRule.isMet (toolEvent "Read") testedProject = true :=
    (Rule.isMet_iff _ _ _).mpr ⟨by decide, by decide, List.forall_mem_singleton.mpr
      ⟨"", by decide +kernel, by decide⟩⟩
  have hscope : Hook.preToolUse.scope? (toolEvent "Read").toolName = none := by decide
  have hdeciders : deciders .preToolUse (toolEvent "Read") .default testedProject = [stopRule] := by
    rw [deciders, hscope, RuleDirectories.rules_load_none, enabledRules_testedProject]
    simp only [List.filter_cons, hcommand, hstop, if_true, List.filter_nil]
    rfl
  refine ⟨rfl, hinput, hdeciders, rfl, ?_⟩
  rw [result_process hinput, result_judge_deciders, hdeciders]
  decide

end Gate

end RuleGate
