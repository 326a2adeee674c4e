import RuleGate.Evaluation
import RuleGate.Rule.Loading

/-!
One invocation of the gate: an event is read, the rules for it are found, and a decision is made. An
invocation that fails lets the event go on, with a message that says what failed.
-/

namespace RuleGate.Gate

/-- What an invocation gives, and the warnings on the way. -/
structure Outcome (α : Type) where
  result : α
  warnings : List Warning

/-- The decision about an event at a hook. -/
def judge (hook : Hook) (e : Event) (sources : RuleDirectories) (files : FileSystem) :
    Outcome Decision :=
  let loaded := sources.load files (hook.scope? e.toolName)
  let (decision, notes) := (Decision.judge loaded.rules e files).runWith SearchCache.empty
  ⟨decision, loaded.warnings ++ notes.warnings⟩

/-- The decision about the event that a text holds. An input without text lets everything go on. -/
def run (hook : Hook) (input : String) (sources : RuleDirectories) (files : FileSystem) :
    Outcome (Except GateError Decision) :=
  let text := String.ofList (Text.trim input.toList)
  if text = "" then ⟨.ok .allow, [.noInput]⟩
  else
    match Event.ofText? text with
    | .error e => ⟨.error (.json e), []⟩
    | .ok event =>
      let outcome := judge hook event sources files
      ⟨.ok outcome.result, outcome.warnings⟩

/-- The decision about the event that a text holds; a failure becomes a message. -/
def process (hook : Hook) (input : String) (sources : RuleDirectories) (files : FileSystem) :
    Outcome Decision :=
  let outcome := run hook input sources files
  match outcome.result with
  | .ok decision => ⟨decision, outcome.warnings⟩
  | .error e => ⟨.report e.message, outcome.warnings ++ [.failed e]⟩

end RuleGate.Gate
