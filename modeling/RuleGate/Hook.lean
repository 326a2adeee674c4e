import RuleGate.Json.Basic

/-!
The hooks at which a host lets events be judged. A hook has a name as events give it, and a name as
the command line gives it.
-/

namespace RuleGate

/-- The moments at which a host hands over an event. -/
inductive Hook where
  | preToolUse
  | postToolUse
  | stop
  | userPromptSubmit
  deriving DecidableEq, Repr

namespace Hook

def all : List Hook :=
  [.preToolUse, .postToolUse, .stop, .userPromptSubmit]

def eventName : Hook → String
  | .preToolUse => "PreToolUse"
  | .postToolUse => "PostToolUse"
  | .stop => "Stop"
  | .userPromptSubmit => "UserPromptSubmit"

def ofEventName? (name : String) : Option Hook :=
  all.find? fun h => h.eventName == name

def commandName : Hook → String
  | .preToolUse => "pre-tool-use"
  | .postToolUse => "post-tool-use"
  | .stop => "stop"
  | .userPromptSubmit => "user-prompt-submit"

def ofCommandName? (name : String) : Option Hook :=
  all.find? fun h => h.commandName == name

def isToolHook : Hook → Bool
  | .preToolUse | .postToolUse => true
  | .stop | .userPromptSubmit => false

theorem ofEventName?_eventName (h : Hook) : ofEventName? h.eventName = some h := by
  cases h <;> decide

theorem eventName_of_ofEventName? {name : String} {h : Hook} (found : ofEventName? name = some h) :
    h.eventName = name := by
  simpa using List.find?_some found

/-- The JSON text of a hook: its name in events. -/
def jsonText (h : Hook) : String :=
  (Json.string h.eventName).text

end Hook

end RuleGate
