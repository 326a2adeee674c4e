import RuleGate.Hook
import RuleGate.Json.Record

/-!
Events as a host hands them over: the name of the hook, the tool and its input, and what goes with
other hooks. In JSON every member may be missing or null. A missing name of the hook reads as the
empty text and a missing input as an input without members; the others stay absent, and absent
members are not written.
-/

namespace RuleGate

structure Event where
  hookName : String
  toolName? : Option String
  toolInput : Dictionary Json
  reason? : Option String
  transcriptPath? : Option String
  userPrompt? : Option String
  deriving DecidableEq

namespace Event

def ofHookName (name : String) : Event :=
  ⟨name, none, Dictionary.empty, none, none, none⟩

/-- The event with a tool and its input. An input that is not an object has no members. -/
def withTool (e : Event) (name : String) (input : Json) : Event :=
  let members :=
    match input with
    | .object members => Dictionary.ofList members
    | _ => Dictionary.empty
  { e with toolName? := some name, toolInput := members }

/-- The name of the tool; the empty text if there is none. -/
def toolName (e : Event) : String :=
  e.toolName?.getD ""

/-- The hook, if the event names one that there is. -/
def hook? (e : Event) : Option Hook :=
  Hook.ofEventName? e.hookName

/-! ### Reading -/

/-- How many arrays and objects may lie inside each other in the text of an event. -/
def maxDepth : Nat := 127

/-- The field of the tool's input, which lies inside the event's own object. -/
def inputField : Json.Field Event :=
  ⟨"tool_input", false, fun e => do
    let value ← Json.Reader.optional (Json.Reader.map (maxDepth - 2))
    pure { e with toolInput := value.getD Dictionary.empty }⟩

def shape : Json.Shape Event where
  title := "struct HookEvent"
  empty := ofHookName ""
  fields := [
    Json.Reader.textField "hook_event_name" "a string" fun e value =>
      { e with hookName := value.getD "" },
    Json.Reader.textField "tool_name" "a string" fun e value => { e with toolName? := value },
    inputField,
    Json.Reader.textField "reason" "a string" fun e value => { e with reason? := value },
    Json.Reader.textField "transcript_path" "path string" fun e value =>
      { e with transcriptPath? := value },
    Json.Reader.textField "user_prompt" "a string" fun e value => { e with userPrompt? := value }]

def ofText? (text : String) : Except Json.Error Event :=
  (Json.Reader.record shape).whole? text

/-! ### Writing -/

def json (e : Event) : Json :=
  .object (("hook_event_name", .string e.hookName) :: Json.textMember "tool_name" e.toolName? ++
    ("tool_input", .object e.toolInput.entries) :: Json.textMember "reason" e.reason? ++
    Json.textMember "transcript_path" e.transcriptPath? ++
    Json.textMember "user_prompt" e.userPrompt?)

def text (e : Event) : String :=
  e.json.text

end Event

end RuleGate
