import RuleGate.Document
import RuleGate.Rule.Basic

/-!
The rule that a document holds. Without metadata there is none; any other document is a rule, in
which what cannot be understood is left out. A list of conditions goes before a pattern of its own.
-/

namespace RuleGate.Rule

def defaultName : String := "unnamed"

/-- What stands for the path of a rule that was not read from a file. -/
def inlinePath : String := "<inline>"

def nameOf (m : Metadata) : String :=
  match m.find? "name" with
  | some (.scalar text) => if text = "" then defaultName else text
  | some (.bool true) => "true"
  | _ => defaultName

def conditionOf (pairs : Dictionary String) : Condition :=
  ⟨(pairs.find? "field").getD "", Operator.ofName (pairs.find? "operator"),
    (pairs.find? "pattern").getD ""⟩

/-- The conditions that the metadata lists. -/
def listedConditions (m : Metadata) : List Condition :=
  (((m.find? "conditions").bind Metadata.Value.items?).getD []).filterMap fun item =>
    item.map?.map conditionOf

/-- The pattern of its own that a rule has, if it is not empty. -/
def ownPatternOf? (m : Metadata) : Option String :=
  (m.text? "pattern").filter (· != "")

/-- The conditions of a rule: those listed, or the search for its pattern. -/
def conditionsOf (m : Metadata) (event : EventClass) : List Condition :=
  match listedConditions m, ownPatternOf? m with
  | [], some pattern => [⟨event.patternField, .regexMatch, pattern⟩]
  | conditions, _ => conditions

def isEnabled (m : Metadata) : Bool :=
  (m.find? "enabled").bind Metadata.Value.bool? != some false

/-- The rule that metadata and a message make, perhaps from a file. -/
def ofMetadata (m : Metadata) (body : String) (source : Option String) : Except GateError Rule :=
  if m.isEmpty then .error (.malformedRule (source.getD inlinePath) "missing frontmatter")
  else
    let event := EventClass.ofName (m.text? "event")
    .ok {
      name := nameOf m
      enabled := isEnabled m
      event := event
      ownPattern? := ownPatternOf? m
      conditions := conditionsOf m event
      action := Action.ofName (m.text? "action")
      tools? := m.text? "tool_matcher"
      message := String.ofList (Text.trim body.toList)
      source? := source }

def ofText (content : String) (source : Option String) : Except GateError Rule :=
  let document := Document.ofText content
  ofMetadata document.metadata document.body source

def ofFile (files : FileSystem) (path : String) : Except GateError Rule :=
  match files.read path with
  | .ok content => ofText content (some path)
  | .error e => .error (.file e)

end RuleGate.Rule
