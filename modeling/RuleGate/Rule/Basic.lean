import RuleGate.Condition

/-!
Rules: what they are written for, when they fire, and what then happens.
-/

namespace RuleGate

/-- The kind of event that rules are asked for. -/
inductive Scope where
  | bash
  | file
  | stop
  | prompt
  deriving DecidableEq, Repr

namespace Scope

def name : Scope → String
  | .bash => "bash"
  | .file => "file"
  | .stop => "stop"
  | .prompt => "prompt"

/-- The scope of the use of a tool, for the tools that are known. -/
def ofTool? (tool : String) : Option Scope :=
  match tool with
  | "Bash" => some .bash
  | "Edit" | "Write" | "MultiEdit" => some .file
  | _ => none

end Scope

/-- The scope of the rules that a hook asks for. Without one, it asks for all rules. -/
def Hook.scope? (hook : Hook) (tool : String) : Option Scope :=
  match hook with
  | .preToolUse | .postToolUse => Scope.ofTool? tool
  | .stop => some .stop
  | .userPromptSubmit => some .prompt

/-- The kind of event that a rule is written for. -/
inductive EventClass where
  | bash
  | file
  | stop
  | prompt
  | all
  | other (name : String)
  deriving DecidableEq

namespace EventClass

/-- The kind of event with the given name. Where none is given, a rule is for all events. -/
def ofName (name : Option String) : EventClass :=
  match name.getD "" with
  | "" => .all
  | "bash" => .bash
  | "file" => .file
  | "stop" => .stop
  | "prompt" => .prompt
  | "all" => .all
  | name => .other name

def name : EventClass → String
  | .bash => "bash"
  | .file => "file"
  | .stop => "stop"
  | .prompt => "prompt"
  | .all => "all"
  | .other name => name

def isOther : EventClass → Bool
  | .other _ => true
  | _ => false

/-- Whether a rule for this kind of event is one of those that are asked for. -/
def isAskedBy (event : EventClass) : Option Scope → Bool
  | none => true
  | some scope =>
    match event with
    | .all => true
    | .bash => scope == .bash
    | .file => scope == .file
    | .stop => scope == .stop
    | .prompt => scope == .prompt
    | .other _ => false

/-- The field that a pattern without a condition of its own is compared with. -/
def patternField : EventClass → String
  | .bash => "command"
  | .file => "new_text"
  | _ => "content"

end EventClass

/-- What happens when a rule fires: a message is shown, or the event is blocked as well. -/
inductive Action where
  | warn
  | block
  deriving DecidableEq, Repr

namespace Action

/-- The action with the given name. Only one name blocks. -/
def ofName (name : Option String) : Action :=
  if name = some "block" then .block else .warn

def name : Action → String
  | .warn => "warn"
  | .block => "block"

end Action

/-- A rule. It may have a pattern of its own beside its conditions, the names of the tools that it
is for, and the path of the file that it was read from. -/
structure Rule where
  name : String
  enabled : Bool
  event : EventClass
  ownPattern? : Option String
  conditions : List Condition
  action : Action
  tools? : Option String
  message : String
  source? : Option String
  deriving DecidableEq

namespace Rule

/-- Whether the rule is for the given tool. It is for all tools if it names none or a star;
otherwise the names of its tools stand between bars. -/
def admits (r : Rule) (tool : String) : Bool :=
  match r.tools? with
  | none => true
  | some names =>
    names == "" || names == "*" || (Text.splitAll '|' names.toList).contains tool.toList

/-- Whether an event fulfils all of some conditions. The first that it does not fulfil settles
it. -/
def allHold (e : Event) (files : FileSystem) : List Condition → Judgement Bool
  | [] => pure true
  | c :: rest => do
    if ← c.holds e files then allHold e files rest else pure false

/-- Whether the rule fires for an event. A rule without conditions never does. -/
def fires (r : Rule) (e : Event) (files : FileSystem) : Judgement Bool :=
  if !r.admits e.toolName || r.conditions.isEmpty then pure false
  else allHold e files r.conditions

end Rule

end RuleGate
