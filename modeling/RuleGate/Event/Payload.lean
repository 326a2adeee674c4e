import RuleGate.Event.Basic

/-!
What the known tools are given. A payload is a view of the input of a tool; members of the wrong
kind count as absent.
-/

namespace RuleGate

/-- The input of a tool: of one that runs a command, of one that writes or edits a file, of one that
makes several edits, or of any other. -/
inductive Payload where
  | command (line : Option String)
  | fileEdit (filePath content newText oldText : Option String)
  | multiEdit (filePath : Option String) (newTexts : Option (List String))
  | other
  deriving DecidableEq

namespace Payload

/-- The text under a key of the input. -/
def textMember? (input : Dictionary Json) (key : String) : Option String :=
  (input.find? key).bind Json.string?

/-- The new text of one edit; empty if there is none. -/
def editText (edit : Json) : String :=
  ((edit.member? "new_string").bind Json.string?).getD ""

/-- The view of an input that the name of the tool asks for. -/
def ofTool (name : String) (input : Dictionary Json) : Payload :=
  match name with
  | "Bash" => .command (textMember? input "command")
  | "Write" | "Edit" =>
    .fileEdit (textMember? input "file_path") (textMember? input "content")
      (textMember? input "new_string") (textMember? input "old_string")
  | "MultiEdit" =>
    .multiEdit (textMember? input "file_path")
      (((input.find? "edits").bind Json.array?).map fun edits => edits.map editText)
  | _ => .other

def commandLine? : Payload → Option String
  | .command line => some (line.getD "")
  | _ => none

/-- The text that is written: of a single file the new text of an edit, or else the whole content;
of several edits all new texts, with spaces between them. -/
def newText? : Payload → Option String
  | .fileEdit _ content newText _ => some ((newText.or content).getD "")
  | .multiEdit _ newTexts => newTexts.map (" ".intercalate ·)
  | _ => none

/-- The text that a single edit replaces. -/
def oldText? : Payload → Option String
  | .fileEdit _ _ _ oldText => some (oldText.getD "")
  | _ => none

def filePath? : Payload → Option String
  | .fileEdit filePath _ _ _ => some (filePath.getD "")
  | .multiEdit filePath _ => some (filePath.getD "")
  | _ => none

/-- Whether the payload is that of a single file. -/
def isFileEdit : Payload → Bool
  | .fileEdit _ _ _ _ => true
  | _ => false

/-- What a rule means by a field, whatever its tool calls it. -/
def field? (p : Payload) (name : String) : Option String :=
  match name with
  | "command" => p.commandLine?
  | "content" | "new_text" => p.newText?
  | "new_string" => if p.isFileEdit then p.newText? else none
  | "old_text" | "old_string" => p.oldText?
  | "file_path" => p.filePath?
  | _ => none

end Payload

def Event.payload (e : Event) : Payload :=
  Payload.ofTool e.toolName e.toolInput

end RuleGate
