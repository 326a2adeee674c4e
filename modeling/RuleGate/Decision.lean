import RuleGate.Json.Record

/-!
Decisions, which the host is given as JSON: nothing at all, a message, the blocking of a stop, or
the denial of a tool. Only a rule that blocks makes a decision that blocks.
-/

namespace RuleGate

/-- A decision: whether it blocks a stop, the reason, the message shown, and the name of the hook at
which the use of a tool is denied. -/
structure Decision where
  block : Bool
  reason? : Option String
  message? : Option String
  deniedHook? : Option String
  deriving DecidableEq

namespace Decision

/-- The decision that changes nothing. -/
def allow : Decision :=
  ⟨false, none, none, none⟩

/-- The decision that shows a message and lets the event go on. -/
def inform (message : String) : Decision :=
  ⟨false, none, some message, none⟩

/-- The decision that blocks a stop. The message is also the reason. -/
def blockStop (message : String) : Decision :=
  ⟨true, some message, some message, none⟩

/-- The decision that denies the use of a tool. -/
def denyTool (hookName message : String) : Decision :=
  ⟨false, none, some message, some hookName⟩

/-- The decision that reports a failure of the gate itself, which never blocks. -/
def report (message : String) : Decision :=
  inform ("Hookify error: " ++ message)

def isAllow (d : Decision) : Bool :=
  d == allow

def isBlocking (d : Decision) : Bool :=
  d.block || d.deniedHook?.isSome

/-! ### Writing -/

def members (d : Decision) : List (String × Json) :=
  (if d.block then [("decision", .string "block")] else []) ++
    Json.textMember "reason" d.reason? ++ Json.textMember "systemMessage" d.message? ++
    match d.deniedHook? with
    | none => []
    | some hookName =>
      [("hookSpecificOutput",
        .object [("hookEventName", .string hookName), ("permissionDecision", .string "deny")])]

def text (d : Decision) : String :=
  (Json.object d.members).text

/-! ### Reading -/

/-- A denial as it is read: the name of the hook. Its other field can only say that it denies. -/
def denialShape : Json.Shape String where
  title := "struct HookSpecificOutput"
  empty := ""
  fields := [
    ⟨"hookEventName", true, fun _ => Json.Reader.text "a string"⟩,
    ⟨"permissionDecision", true, fun hookName => do
      Json.Reader.word "deny"
      pure hookName⟩]

def shape : Json.Shape Decision where
  title := "struct HookDecision"
  empty := allow
  fields := [
    ⟨"decision", false, fun d => do
      let value ← Json.Reader.optional (Json.Reader.word "block")
      pure { d with block := value.isSome }⟩,
    Json.Reader.textField "reason" "a string" fun d value => { d with reason? := value },
    Json.Reader.textField "systemMessage" "a string" fun d value => { d with message? := value },
    ⟨"hookSpecificOutput", false, fun d => do
      let value ← Json.Reader.optional (Json.Reader.record denialShape)
      pure { d with deniedHook? := value }⟩]

def ofText? (text : String) : Except Json.Error Decision :=
  (Json.Reader.record shape).whole? text

end Decision

end RuleGate
