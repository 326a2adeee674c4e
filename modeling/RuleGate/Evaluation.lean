import RuleGate.Decision
import RuleGate.Rule.Basic

/-!
From rules and an event to a decision. Rules that block go before those that warn, whose messages
are then dropped. How an event is blocked depends on its hook; an event of a hook that cannot be
blocked only gets the message.
-/

namespace RuleGate

/-- The rules that fire for an event, in their order. -/
def Rule.firing (e : Event) (files : FileSystem) : List Rule → Judgement (List Rule)
  | [] => pure []
  | r :: rest => do
    let fires ← r.fires e files
    let others ← firing e files rest
    pure (if fires then r :: others else others)

/-- The message of a rule under its name. -/
def Rule.heading (r : Rule) : String :=
  "**[" ++ r.name ++ "]**\n" ++ r.message

/-- The messages of rules, with blank lines between them. -/
def Rule.render (rules : List Rule) : String :=
  "\n\n".intercalate (rules.map Rule.heading)

namespace Decision

/-- The decision that blocks an event. -/
def blocking (e : Event) (message : String) : Decision :=
  match e.hook? with
  | some .stop => blockStop message
  | some .preToolUse | some .postToolUse => denyTool e.hookName message
  | some .userPromptSubmit | none => inform message

/-- The decision to which the rules that fire for an event lead. -/
def ofFiring (e : Event) (firing : List Rule) : Decision :=
  let blockers := firing.filter (·.action == .block)
  let warners := firing.filter (·.action == .warn)
  if !blockers.isEmpty then blocking e (Rule.render blockers)
  else if !warners.isEmpty then inform (Rule.render warners)
  else allow

def judge (rules : List Rule) (e : Event) (files : FileSystem) : Judgement Decision := do
  let firing ← Rule.firing e files rules
  pure (ofFiring e firing)

end Decision

end RuleGate
