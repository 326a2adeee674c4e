import RuleGate.Event.Payload
import RuleGate.GateError

/-!
The value of a field of an event. A member of the tool's input has the name for itself; after it
come the members of the event, and last what the name means for the tool. A field that none of these
knows has no value, which is not the same as an empty one.
-/

namespace RuleGate.Event

/-- The text of a member of the input: a string as it stands, and any other value as JSON. -/
def memberText : Json → String
  | .string text => text
  | value => value.text

/-- The transcript of the event, which is empty if the event names none. -/
def transcript (e : Event) (files : FileSystem) : Except GateError String :=
  match e.transcriptPath? with
  | none => .ok ""
  | some path => (files.read path).mapError (.transcript path)

/-- The text of the transcript, which is empty if it cannot be read. -/
def transcriptText (e : Event) (files : FileSystem) : String :=
  match e.transcript files with
  | .ok text => text
  | .error _ => ""

def field? (e : Event) (files : FileSystem) (name : String) : Option String :=
  match e.toolInput.find? name with
  | some value => some (memberText value)
  | none =>
    match name with
    | "reason" => some (e.reason?.getD "")
    | "transcript" => some (e.transcriptText files)
    | "user_prompt" => some (e.userPrompt?.getD "")
    | _ => e.payload.field? name

end RuleGate.Event
